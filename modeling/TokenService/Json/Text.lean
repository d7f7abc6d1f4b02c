import TokenService.Json.Reading
import TokenService.Text.Hex

/-!
# Strings in JSON texts

A string is read from behind its opening quote. `readString` keeps it: escapes are resolved to bytes
first, surrogates must come in pairs, and the bytes must then be well-formed UTF-8. `skipString`
passes over a string that nobody wants; it checks the shape of the escapes but neither the pairing
of surrogates nor the bytes.
-/

set_option autoImplicit false
set_option relaxedAutoImplicit false

namespace TokenService.Json

/-- The byte that opens and closes a string. -/
def quoteMark : UInt8 := ascii '"'

/-- The byte that begins an escape. -/
def backslash : UInt8 := ascii '\\'

/-! ### Escapes -/

/-- The byte that a one-letter escape stands for. -/
def plainEscape? (letter : UInt8) : Option UInt8 :=
  if letter = quoteMark then some quoteMark
  else if letter = backslash then some backslash
  else if letter = ascii '/' then some (ascii '/')
  else if letter = ascii 'b' then some 0x08
  else if letter = ascii 'f' then some 0x0C
  else if letter = ascii 'n' then some 0x0A
  else if letter = ascii 'r' then some 0x0D
  else if letter = ascii 't' then some 0x09
  else none

/-- The value of four hexadecimal digits. -/
def hexValues? (first second third fourth : UInt8) : Option Nat := do
  let first ← Text.Hex.value? first.toNat
  let second ← Text.Hex.value? second.toNat
  let third ← Text.Hex.value? third.toNat
  let fourth ← Text.Hex.value? fourth.toNat
  some (((first * 16 + second) * 16 + third) * 16 + fourth)

/-- Reads the four hexadecimal digits of an escape. -/
def readHex : Bytes → Reading Nat
  | first :: second :: third :: fourth :: rest =>
    match hexValues? first second third fourth with
    | some value => .ok (value, rest)
    | none => .error (.before .invalidEscape rest)
  | _ => .error (.before .endInString [])

/-- A value that opens a surrogate pair. -/
def isHighSurrogate (value : Nat) : Bool :=
  0xD800 ≤ value && value ≤ 0xDBFF

/-- A value that closes a surrogate pair. -/
def isLowSurrogate (value : Nat) : Bool :=
  0xDC00 ≤ value && value ≤ 0xDFFF

/-- The character of a surrogate pair. -/
def pairedChar (high low : Nat) : Char :=
  Char.ofNat ((high - 0xD800) * 0x400 + (low - 0xDC00) + 0x10000)

/-- Reads the second half of a surrogate pair. -/
def readLowSurrogate (high : Nat) : Bytes → Reading Bytes
  | [] => .error (.before .endInString [])
  | [byte] =>
    if byte = backslash then .error (.before .endInString [])
    else .error (.before .unfinishedPair [])
  | byte :: letter :: rest =>
    if byte ≠ backslash then .error (.before .unfinishedPair (letter :: rest))
    else if letter ≠ ascii 'u' then .error (.before .unfinishedPair rest)
    else
      match readHex rest with
      | .error fault => .error fault
      | .ok (low, others) =>
        if isLowSurrogate low then .ok (Text.Utf8.encodeChar (pairedChar high low), others)
        else .error (.before .loneSurrogate others)

/-- Reads the escape of a code unit, and the one after it if the two make a pair. -/
def readCodeUnits (bytes : Bytes) : Reading Bytes :=
  match readHex bytes with
  | .error fault => .error fault
  | .ok (value, rest) =>
    if isLowSurrogate value then .error (.before .loneSurrogate rest)
    else if isHighSurrogate value then readLowSurrogate value rest
    else .ok (Text.Utf8.encodeChar (Char.ofNat value), rest)

/-- Reads an escape from behind its backslash. -/
def readEscape : Bytes → Reading Bytes
  | [] => .error (.before .endInString [])
  | letter :: rest =>
    match plainEscape? letter with
    | some byte => .ok ([byte], rest)
    | none =>
      if letter = ascii 'u' then readCodeUnits rest
      else .error (.before .invalidEscape rest)

theorem readHex_shrinks : Shrinks readHex := by
  intro bytes value rest done
  unfold readHex at done
  grind

theorem readLowSurrogate_shrinks (high : Nat) : Shrinks (readLowSurrogate high) := by
  intro bytes value rest done
  unfold readLowSurrogate at done
  have hex := @readHex_shrinks
  simp only [Shrinks] at hex
  grind

theorem readCodeUnits_shrinks : Shrinks readCodeUnits := by
  intro bytes value rest done
  unfold readCodeUnits at done
  have hex := @readHex_shrinks
  have low := @readLowSurrogate_shrinks
  simp only [Shrinks] at hex low
  grind

theorem readEscape_shrinks : Shrinks readEscape := by
  intro bytes value rest done
  unfold readEscape at done
  have units := @readCodeUnits_shrinks
  simp only [Shrinks] at units
  grind

theorem readHex_faultsWithin : FaultsWithin readHex := by
  intro bytes fault failed
  unfold readHex at failed
  grind [Fault.before]

theorem readLowSurrogate_faultsWithin (high : Nat) : FaultsWithin (readLowSurrogate high) := by
  intro bytes fault failed
  have hex := @readHex_shrinks
  have hexFault := @readHex_faultsWithin
  simp only [Shrinks] at hex
  simp only [FaultsWithin] at hexFault
  unfold readLowSurrogate at failed
  grind [Fault.before]

theorem readCodeUnits_faultsWithin : FaultsWithin readCodeUnits := by
  intro bytes fault failed
  have hex := @readHex_shrinks
  have hexFault := @readHex_faultsWithin
  have low := @readLowSurrogate_faultsWithin
  simp only [Shrinks] at hex
  simp only [FaultsWithin] at hexFault low
  unfold readCodeUnits at failed
  grind [Fault.before]

theorem readEscape_faultsWithin : FaultsWithin readEscape := by
  intro bytes fault failed
  have units := @readCodeUnits_faultsWithin
  simp only [FaultsWithin] at units
  unfold readEscape at failed
  grind [Fault.before]

/-! ### Kept strings -/

/-- The bytes of a string, escapes resolved. -/
def readContent : Bytes → Reading Bytes
  | [] => .error (.before .endInString [])
  | byte :: rest =>
    if byte = quoteMark then .ok ([], rest)
    else if byte = backslash then
      match _read : readEscape rest with
      | .error fault => .error fault
      | .ok (part, others) =>
        match readContent others with
        | .error fault => .error fault
        | .ok (content, left) => .ok (part ++ content, left)
    else if byte.toNat < 0x20 then .error (.before .controlCharacter rest)
    else
      match readContent rest with
      | .error fault => .error fault
      | .ok (content, left) => .ok (byte :: content, left)
termination_by bytes => bytes.length
decreasing_by
  · have shorter := readEscape_shrinks _read
    simp only [List.length_cons]
    omega
  · simp

theorem readContent_consumes : Consumes readContent := by
  intro bytes
  have escape := @readEscape_shrinks
  simp only [Shrinks] at escape
  fun_induction readContent bytes <;> grind

/-- The last bytes, as many as there are of the given number. -/
def takeLast (count : Nat) (bytes : Bytes) : Bytes :=
  bytes.drop (bytes.length - count)

/-- Reads a string that is kept. Where its bytes are no text, those from the first that cannot be
part of one are counted off from the end of the string to find the place of the fault. The place is
that of this byte, unless escapes, which are longer than the bytes they stand for, come after it. -/
def readString (bytes : Bytes) : Reading String :=
  match readContent bytes with
  | .error fault => .error fault
  | .ok (content, rest) =>
    match Text.Utf8.decode? content with
    | some text => .ok (text, rest)
    | none =>
      let illFormed := Text.Utf8.dropWellFormed content
      .error ⟨.invalidCodePoint, takeLast (illFormed.length + rest.length) bytes, rest⟩

theorem readString_consumes : Consumes readString := by
  intro bytes value rest done
  have content := @readContent_consumes
  simp only [Consumes] at content
  unfold readString at done
  grind

theorem readContent_faultsWithin : FaultsWithin readContent := by
  intro bytes
  have escape := @readEscape_shrinks
  have escapeFault := @readEscape_faultsWithin
  simp only [Shrinks] at escape
  simp only [FaultsWithin] at escapeFault
  fun_induction readContent bytes <;> grind [Fault.before]

theorem readString_faultsWithin : FaultsWithin readString := by
  intro bytes fault failed
  have content := @readContent_consumes
  have contentFault := @readContent_faultsWithin
  simp only [Consumes] at content
  simp only [FaultsWithin] at contentFault
  unfold readString at failed
  grind

/-! ### Skipped strings -/

/-- Passes over an escape from behind its backslash. -/
def skipEscape : Bytes → Reading Unit
  | [] => .error (.before .endInString [])
  | letter :: rest =>
    if (plainEscape? letter).isSome then .ok ((), rest)
    else if letter = ascii 'u' then
      match readHex rest with
      | .error fault => .error fault
      | .ok (_, others) => .ok ((), others)
    else .error (.before .invalidEscape rest)

theorem skipEscape_shrinks : Shrinks skipEscape := by
  intro bytes value rest done
  have hex := @readHex_shrinks
  simp only [Shrinks] at hex
  unfold skipEscape at done
  grind

/-- Passes over a string. A control character is left unread. -/
def skipString : Bytes → Reading Unit
  | [] => .error (.before .endInString [])
  | byte :: rest =>
    if byte = quoteMark then .ok ((), rest)
    else if byte = backslash then
      match _read : skipEscape rest with
      | .error fault => .error fault
      | .ok (_, others) => skipString others
    else if byte.toNat < 0x20 then .error (.before .controlCharacter (byte :: rest))
    else skipString rest
termination_by bytes => bytes.length
decreasing_by
  · have shorter := skipEscape_shrinks _read
    simp only [List.length_cons]
    omega
  · simp

theorem skipString_consumes : Consumes skipString := by
  intro bytes
  have escape := @skipEscape_shrinks
  simp only [Shrinks] at escape
  fun_induction skipString bytes <;> grind

end TokenService.Json
