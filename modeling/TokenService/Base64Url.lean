import TokenService.Decimal.Integer
import TokenService.Text.Utf8

/-!
# Base64 for URLs

Three bytes are written as four symbols of six bits, with `-` and `_` for the last two symbols and
without padding. `decode` undoes `encode` and accepts nothing else: a stray byte, a padding sign, a
lone symbol at the end or a bit that no byte uses is refused, with the offset of the offence.
-/

set_option autoImplicit false
set_option relaxedAutoImplicit false

namespace TokenService.Base64Url

/-! ### Symbols -/

/-- The symbol of a value below 64. -/
def symbol (value : Nat) : UInt8 :=
  if value < 26 then UInt8.ofNat (0x41 + value)
  else if value < 52 then UInt8.ofNat (0x61 + (value - 26))
  else if value < 62 then UInt8.ofNat (0x30 + (value - 52))
  else if value = 62 then ascii '-'
  else ascii '_'

/-- The value of a symbol. -/
def value? (byte : UInt8) : Option Nat :=
  let code := byte.toNat
  if 0x41 ≤ code ∧ code ≤ 0x5A then some (code - 0x41)
  else if 0x61 ≤ code ∧ code ≤ 0x7A then some (code - 0x61 + 26)
  else if 0x30 ≤ code ∧ code ≤ 0x39 then some (code - 0x30 + 52)
  else if byte = ascii '-' then some 62
  else if byte = ascii '_' then some 63
  else none

/-- The sign that pads other dialects. -/
def pad : UInt8 := ascii '='

/-! ### Writing -/

/-- The symbols of some bytes. -/
def encode : Bytes → Bytes
  | [] => []
  | [first] => [symbol (first.toNat / 4), symbol (first.toNat % 4 * 16)]
  | [first, second] =>
    [symbol (first.toNat / 4), symbol (first.toNat % 4 * 16 + second.toNat / 16),
      symbol (second.toNat % 16 * 4)]
  | first :: second :: third :: rest =>
    symbol (first.toNat / 4) :: symbol (first.toNat % 4 * 16 + second.toNat / 16) ::
      symbol (second.toNat % 16 * 4 + third.toNat / 64) :: symbol (third.toNat % 64) ::
      encode rest

/-! ### Reading -/

/-- What is wrong with a text that is no encoding. Offsets count bytes from the start. -/
inductive Fault
  | invalidSymbol (byte : UInt8) (offset : Nat)
  | invalidLength (length : Nat)
  | invalidLastSymbol (byte : UInt8) (offset : Nat)
  | invalidPadding
deriving DecidableEq, Repr

/-- The text of a byte and its offset. -/
def place (byte : UInt8) (offset : Nat) : String :=
  Decimal.Integer.text byte.toNat ++ ", offset " ++ Decimal.Integer.text offset ++ "."

/-- The text of a fault. -/
def Fault.message : Fault → String
  | .invalidSymbol byte offset =>
    "Invalid symbol " ++ place byte offset
  | .invalidLength length => "Invalid input length: " ++ Decimal.Integer.text length
  | .invalidLastSymbol byte offset =>
    "Invalid last symbol " ++ place byte offset
  | .invalidPadding => "Invalid padding"

/-- The values of symbols that begin at an offset. -/
def values (offset : Nat) : Bytes → Except Fault (List Nat)
  | [] => .ok []
  | byte :: rest =>
    match value? byte with
    | none => .error (.invalidSymbol byte offset)
    | some value => (values (offset + 1) rest).map (value :: ·)

/-- The bytes of two to four symbols, of which `last` is the last, at an offset. Bits beyond the
last whole byte must be zero. -/
def bytesOfValues (last : UInt8) (offset : Nat) : List Nat → Except Fault Bytes
  | [first, second] =>
    if second % 16 = 0 then .ok [UInt8.ofNat (first * 4 + second / 16)]
    else .error (.invalidLastSymbol last (offset + 1))
  | [first, second, third] =>
    if third % 4 = 0 then
      .ok [UInt8.ofNat (first * 4 + second / 16), UInt8.ofNat (second % 16 * 16 + third / 4)]
    else .error (.invalidLastSymbol last (offset + 2))
  | [first, second, third, fourth] =>
    .ok [UInt8.ofNat (first * 4 + second / 16), UInt8.ofNat (second % 16 * 16 + third / 4),
      UInt8.ofNat (third % 4 * 64 + fourth)]
  | other => .error (.invalidLength (offset + other.length))

/-- Reads the last one to four bytes. A padding sign is told from a stray byte only where padding
could stand, after two symbols and with nothing but padding behind it. -/
def decodeLast (offset : Nat) (bytes : Bytes) : Except Fault Bytes := do
  let symbols := bytes.takeWhile (· ≠ pad)
  let padding := bytes.dropWhile (· ≠ pad)
  let sixes ← values offset symbols
  if !padding.isEmpty && (symbols.length < 2 || padding.any (· ≠ pad)) then
    .error (.invalidSymbol pad (offset + symbols.length))
  else if symbols.length < 2 then
    .error (.invalidLength (offset + symbols.length))
  else if !padding.isEmpty then
    .error .invalidPadding
  else
    bytesOfValues (symbols.getLastD pad) offset sixes

/-- Reads symbols that begin at an offset, four at a time. -/
def decodeFrom (offset : Nat) : Bytes → Except Fault Bytes
  | [] => .ok []
  | first :: second :: third :: fourth :: fifth :: rest => do
    let sixes ← values offset [first, second, third, fourth]
    let group ← bytesOfValues fourth offset sixes
    let others ← decodeFrom (offset + 4) (fifth :: rest)
    .ok (group ++ others)
  | bytes => decodeLast offset bytes

/-- The bytes that a text encodes. A stray byte that is one too many for whole groups of four is
reported before all others. -/
def decode (bytes : Bytes) : Except Fault Bytes :=
  let last := bytes.getLastD pad
  if bytes.length % 4 = 1 && last ≠ pad && (value? last).isNone then
    .error (.invalidSymbol last (bytes.length - 1))
  else decodeFrom 0 bytes

end TokenService.Base64Url
