import Mathlib.Data.List.Count
import Mathlib.Data.String.Basic
import Mathlib.Tactic.IntervalCases
import Mathlib.Tactic.SplitIfs
import TokenService.Text.Utf8

/-!
# UTF-8 read back

Writing a text and reading the bytes gives the text again (`decode?_encode`). The front of the bytes
of a text is its first character (`front_encodeChar`), and the whole follows character by character.
Nothing else can be read: a character is written as the very bytes that it was read from
(`encodeChar_of_front`), so the bytes that read as a text are those of this text
(`decode?_eq_some_iff`).

A text is ASCII exactly when its bytes are below 0x80. For such texts the bytes and the text
determine each other through `asciiBytes` and `asciiText`. The length of the bytes is the one that
the library counts (`utf8ByteSize_eq_length_encode`).
-/

set_option autoImplicit false
set_option relaxedAutoImplicit false

namespace TokenService.Text.Utf8

/-! ### The front of a written character -/

theorem toNat_lt_or (character : Char) :
    character.toNat < 0xD800 ∨ 0xDFFF < character.toNat ∧ character.toNat < 0x110000 :=
  character.valid

theorem toNat_ofNat_of_lt {value : Nat} (hvalue : value < 256) :
    (UInt8.ofNat value).toNat = value := by
  rw [UInt8.toNat_ofNat']
  exact Nat.mod_eq_of_lt hvalue

theorem tails_cons {byte : UInt8} (htail : isTail byte = true) (count value : Nat)
    (rest : Bytes) :
    tails (count + 1) value (byte :: rest) =
      tails count (value * 64 + (byte.toNat - 0x80)) rest := by
  rw [tails, if_pos htail]

theorem isTail_ofNat {value : Nat} (hvalue : value < 64) :
    isTail (UInt8.ofNat (0x80 + value)) = true := by
  have hsmall : 0x80 + value ≤ 0xBF := by omega
  rw [isTail, toNat_ofNat_of_lt (by omega)]
  simp [hsmall]

theorem front_of_lead {byte second : UInt8} {bits low high count : Nat}
    (hlead : lead? byte = some ⟨bits, low, high, count⟩) (hbyte : 0x80 ≤ byte.toNat)
    (hlow : low ≤ second.toNat) (hhigh : second.toNat ≤ high) (rest : Bytes) :
    front byte (second :: rest) = tails count (bits * 64 + (second.toNat - 0x80)) rest := by
  unfold front
  rw [if_neg (by omega)]
  simp [hlead, hlow, hhigh]

/-- The lead byte of a character of three bytes, by the bits that it carries. -/
theorem lead?_three {bits : Nat} (hbits : bits < 16) :
    lead? (UInt8.ofNat (0xE0 + bits)) =
      some ⟨bits, if bits = 0 then 0xA0 else 0x80, if bits = 13 then 0x9F else 0xBF, 1⟩ := by
  rw [lead?, toNat_ofNat_of_lt (by omega)]
  interval_cases bits <;> rfl

/-- The lead byte of a character of four bytes, by the bits that it carries. -/
theorem lead?_four {bits : Nat} (hbits : bits < 5) :
    lead? (UInt8.ofNat (0xF0 + bits)) =
      some ⟨bits, if bits = 0 then 0x90 else 0x80, if bits = 4 then 0x8F else 0xBF, 2⟩ := by
  rw [lead?, toNat_ofNat_of_lt (by omega)]
  interval_cases bits <;> rfl

theorem front_two {value : Nat} (hlower : 0x80 ≤ value) (hupper : value < 0x800) (rest : Bytes) :
    front (.ofNat (0xC0 + value / 64)) (.ofNat (0x80 + value % 64) :: rest) =
      .character (.ofNat value) rest := by
  have hlead : lead? (UInt8.ofNat (0xC0 + value / 64)) = some ⟨value / 64, 0x80, 0xBF, 0⟩ := by
    rw [lead?, toNat_ofNat_of_lt (by omega), if_neg (by omega), if_pos (by omega),
      Nat.add_sub_cancel_left]
  have hvalue : value / 64 * 64 + (0x80 + value % 64 - 0x80) = value := by omega
  rw [front_of_lead hlead]
  · rw [toNat_ofNat_of_lt (by omega), tails, hvalue]
  all_goals
    rw [toNat_ofNat_of_lt (by omega)]
    omega

theorem front_three {value : Nat} (hlower : 0x800 ≤ value) (hupper : value < 0x10000)
    (hvalid : value < 0xD800 ∨ 0xDFFF < value) (rest : Bytes) :
    front (.ofNat (0xE0 + value / 4096)) (.ofNat (0x80 + value / 64 % 64) ::
      .ofNat (0x80 + value % 64) :: rest) = .character (.ofNat value) rest := by
  have hvalue : (value / 4096 * 64 + (0x80 + value / 64 % 64 - 0x80)) * 64 +
      (0x80 + value % 64 - 0x80) = value := by omega
  rw [front_of_lead (lead?_three (by omega))]
  · rw [toNat_ofNat_of_lt (by omega), tails_cons (isTail_ofNat (by omega)),
      toNat_ofNat_of_lt (by omega), tails, hvalue]
  · rw [toNat_ofNat_of_lt (by omega)]
    omega
  all_goals
    rw [toNat_ofNat_of_lt (by omega)]
    split <;> omega

theorem front_four {value : Nat} (hlower : 0x10000 ≤ value) (hupper : value < 0x110000)
    (rest : Bytes) :
    front (.ofNat (0xF0 + value / 262144)) (.ofNat (0x80 + value / 4096 % 64) ::
      .ofNat (0x80 + value / 64 % 64) :: .ofNat (0x80 + value % 64) :: rest) =
        .character (.ofNat value) rest := by
  have hvalue : ((value / 262144 * 64 + (0x80 + value / 4096 % 64 - 0x80)) * 64 +
      (0x80 + value / 64 % 64 - 0x80)) * 64 + (0x80 + value % 64 - 0x80) = value := by omega
  rw [front_of_lead (lead?_four (by omega))]
  · rw [toNat_ofNat_of_lt (by omega), tails_cons (isTail_ofNat (by omega)),
      toNat_ofNat_of_lt (by omega), tails_cons (isTail_ofNat (by omega)),
      toNat_ofNat_of_lt (by omega), tails, hvalue]
  · rw [toNat_ofNat_of_lt (by omega)]
    omega
  all_goals
    rw [toNat_ofNat_of_lt (by omega)]
    split <;> omega

/-- The bytes of a character begin with a byte from which the character is read, whatever comes
after them. -/
theorem front_encodeChar (character : Char) :
    ∃ byte others, encodeChar character = byte :: others ∧
      ∀ rest, front byte (others ++ rest) = .character character rest := by
  have hvalid := toNat_lt_or character
  have hback : Char.ofNat character.toNat = character := Char.ofNat_toNat character
  unfold encodeChar
  generalize character.toNat = value at hvalid hback
  dsimp only
  rw [← hback]
  by_cases hone : value < 0x80
  · rw [if_pos hone]
    refine ⟨_, _, rfl, fun rest ↦ ?_⟩
    unfold front
    rw [toNat_ofNat_of_lt (by omega), if_pos hone, List.nil_append]
  rw [if_neg hone]
  by_cases htwo : value < 0x800
  · rw [if_pos htwo]
    exact ⟨_, _, rfl, front_two (by omega) htwo⟩
  rw [if_neg htwo]
  by_cases hthree : value < 0x10000
  · rw [if_pos hthree]
    exact ⟨_, _, rfl, front_three (by omega) hthree (by omega)⟩
  · rw [if_neg hthree]
    exact ⟨_, _, rfl, front_four (by omega) (by omega)⟩

/-- The first byte of a character continues no character, and every other byte of it does. -/
theorem isTail_of_encodeChar (character : Char) :
    ∃ byte others, encodeChar character = byte :: others ∧ isTail byte = false ∧
      ∀ other ∈ others, isTail other = true := by
  have hvalid := toNat_lt_or character
  have hlead : ∀ value, 0xC0 ≤ value → value < 256 → isTail (.ofNat value) = false := by
    intro value hleast hmost
    rw [isTail, toNat_ofNat_of_lt hmost]
    simp
    omega
  have htail : ∀ value, isTail (.ofNat (0x80 + value % 64)) = true :=
    fun value ↦ isTail_ofNat (Nat.mod_lt value (by decide))
  unfold encodeChar
  generalize character.toNat = value at hvalid
  dsimp only
  split
  · refine ⟨_, _, rfl, ?_, by simp⟩
    rw [isTail, toNat_ofNat_of_lt (by omega)]
    simp
    omega
  split
  · refine ⟨_, _, rfl, hlead _ (by omega) (by omega), ?_⟩
    simp only [List.forall_mem_singleton, htail]
  split
  · refine ⟨_, _, rfl, hlead _ (by omega) (by omega), ?_⟩
    simp only [List.forall_mem_cons, htail, true_and]
    exact List.forall_mem_nil _
  · refine ⟨_, _, rfl, hlead _ (by omega) (by omega), ?_⟩
    simp only [List.forall_mem_cons, htail, true_and]
    exact List.forall_mem_nil _

/-- Bytes begin with at most one character. -/
theorem encodeChar_append_inj {first second : Char} {rest others : Bytes}
    (h : encodeChar first ++ rest = encodeChar second ++ others) :
    first = second ∧ rest = others := by
  obtain ⟨byte, left, hfirst, hfront⟩ := front_encodeChar first
  obtain ⟨byte', left', hsecond, hfront'⟩ := front_encodeChar second
  rw [hfirst, hsecond, List.cons_append, List.cons_append, List.cons.injEq] at h
  have hsame := hfront rest
  rw [h.1, h.2, hfront', Front.character.injEq] at hsame
  exact ⟨hsame.1.symm, hsame.2.symm⟩

/-! ### Whole texts -/

theorem decodeChars?_encodeChar_append (character : Char) (rest : Bytes) :
    decodeChars? (encodeChar character ++ rest) = (decodeChars? rest).map (character :: ·) := by
  obtain ⟨byte, others, hbytes, hfront⟩ := front_encodeChar character
  rw [hbytes, List.cons_append, decodeChars?]
  split
  · next seen =>
    rw [hfront] at seen
    injection seen with hcharacter hrest
    rw [← hcharacter, ← hrest]
  · next seen =>
    rw [hfront] at seen
    cases seen

theorem decodeChars?_flatMap (characters : List Char) :
    decodeChars? (characters.flatMap encodeChar) = some characters := by
  induction characters with
  | nil => rw [List.flatMap_nil, decodeChars?]
  | cons character characters ih =>
    rw [List.flatMap_cons, decodeChars?_encodeChar_append, ih, Option.map_some]

/-- The bytes of a text read as this text. -/
theorem decode?_encode (text : String) : decode? (encode text) = some text := by
  rw [decode?, encode, decodeChars?_flatMap, Option.map_some, String.ofList_toList]

theorem decodeCharsLossy_encodeChar_append (character : Char) (rest : Bytes) :
    decodeCharsLossy (encodeChar character ++ rest) = character :: decodeCharsLossy rest := by
  obtain ⟨byte, others, hbytes, hfront⟩ := front_encodeChar character
  rw [hbytes, List.cons_append, decodeCharsLossy]
  split
  · next seen =>
    rw [hfront, Front.character.injEq] at seen
    rw [← seen.1, ← seen.2]
  · next seen =>
    rw [hfront] at seen
    cases seen

/-- Nothing of a text is lost where ill-formed parts would be replaced. -/
theorem decodeLossy_encode (text : String) : decodeLossy (encode text) = text := by
  have hcharacters : ∀ characters : List Char,
      decodeCharsLossy (characters.flatMap encodeChar) = characters := by
    intro characters
    induction characters with
    | nil => rw [List.flatMap_nil, decodeCharsLossy]
    | cons character characters ih =>
      rw [List.flatMap_cons, decodeCharsLossy_encodeChar_append, ih]
  rw [decodeLossy, encode, hcharacters, String.ofList_toList]

theorem encode_injective {first second : String} (h : encode first = encode second) :
    first = second := by
  have hread := decode?_encode first
  rw [h, decode?_encode] at hread
  exact (Option.some.inj hread).symm

/-! ### ASCII -/

theorem encodeChar_of_lt {character : Char} (hascii : character.toNat < 0x80) :
    encodeChar character = [ascii character] := by
  rw [encodeChar, if_pos hascii]

/-- A character beyond ASCII is written with bytes beyond ASCII. -/
theorem le_of_mem_encodeChar {character : Char} (hlarge : 0x80 ≤ character.toNat) {byte : UInt8}
    (hbyte : byte ∈ encodeChar character) : 0x80 ≤ byte.toNat := by
  have hvalid := toNat_lt_or character
  unfold encodeChar at hbyte
  generalize character.toNat = value at hvalid hlarge hbyte
  dsimp only at hbyte
  rw [if_neg (by omega)] at hbyte
  split at hbyte
  · simp only [List.mem_cons, List.not_mem_nil, or_false] at hbyte
    rcases hbyte with rfl | rfl <;> rw [toNat_ofNat_of_lt (by omega)] <;> omega
  · split at hbyte
    all_goals simp only [List.mem_cons, List.not_mem_nil, or_false] at hbyte
    · rcases hbyte with rfl | rfl | rfl <;> rw [toNat_ofNat_of_lt (by omega)] <;> omega
    · rcases hbyte with rfl | rfl | rfl | rfl <;> rw [toNat_ofNat_of_lt (by omega)] <;> omega

/-- An ASCII byte occurs in the bytes of its own character only. -/
theorem eq_of_ascii_mem_encodeChar {character mark : Char} (hmark : mark.toNat < 0x80)
    (h : ascii mark ∈ encodeChar character) : character = mark := by
  have hbyte : (ascii mark).toNat = mark.toNat := toNat_ofNat_of_lt (by omega)
  have hsmall : character.toNat < 0x80 := by
    by_contra hlarge
    have hhigh := le_of_mem_encodeChar (by omega) h
    omega
  rw [encodeChar_of_lt hsmall, List.mem_singleton] at h
  have hcode : mark.toNat = character.toNat := by
    rw [← hbyte, h]
    exact toNat_ofNat_of_lt (by omega)
  rw [← Char.ofNat_toNat character, ← hcode, Char.ofNat_toNat]

/-- Every byte is a code point. -/
theorem toNat_ofNat_toNat (byte : UInt8) : (Char.ofNat byte.toNat).toNat = byte.toNat := by
  have hbyte := byte.toNat_lt
  rw [Char.ofNat, dif_pos (Or.inl (by omega))]
  rfl

theorem encodeChar_ofNat_toNat {byte : UInt8} (hascii : byte.toNat < 0x80) :
    encodeChar (Char.ofNat byte.toNat) = [byte] := by
  have hcode := toNat_ofNat_toNat byte
  rw [encodeChar_of_lt (by omega), ascii, hcode, UInt8.ofNat_toNat]

theorem decodeChars?_cons {byte : UInt8} (hascii : byte.toNat < 0x80) (rest : Bytes) :
    decodeChars? (byte :: rest) = (decodeChars? rest).map (Char.ofNat byte.toNat :: ·) := by
  rw [← decodeChars?_encodeChar_append, encodeChar_ofNat_toNat hascii, List.singleton_append]

/-- A text whose bytes are all ASCII is the text of these bytes. -/
theorem asciiText_encode {text : String} (hascii : ∀ byte ∈ encode text, byte.toNat < 0x80) :
    asciiText (encode text) = text := by
  have hcharacters : ∀ characters : List Char,
      (∀ byte ∈ characters.flatMap encodeChar, byte.toNat < 0x80) →
        (characters.flatMap encodeChar).map (fun byte ↦ Char.ofNat byte.toNat) = characters := by
    intro characters
    induction characters with
    | nil => exact fun _ ↦ rfl
    | cons character characters ih =>
      intro hbytes
      rw [List.flatMap_cons] at hbytes ⊢
      have hsmall : character.toNat < 0x80 := by
        obtain ⟨byte, others, hwritten, -⟩ := front_encodeChar character
        by_contra hlarge
        have hmem : byte ∈ encodeChar character := by simp [hwritten]
        have hlow := hbytes byte (List.mem_append_left _ hmem)
        have hhigh := le_of_mem_encodeChar (by omega) hmem
        omega
      have hcode : Char.ofNat (ascii character).toNat = character := by
        rw [ascii, toNat_ofNat_of_lt (by omega), Char.ofNat_toNat]
      rw [List.map_append, ih fun byte hbyte ↦ hbytes byte (List.mem_append_right _ hbyte),
        encodeChar_of_lt hsmall, List.map_singleton, hcode, List.singleton_append]
  rw [asciiText, encode, hcharacters _ hascii, String.ofList_toList]

/-- ASCII bytes are the bytes of their text. -/
theorem encode_asciiText {bytes : Bytes} (hascii : ∀ byte ∈ bytes, byte.toNat < 0x80) :
    encode (asciiText bytes) = bytes := by
  rw [asciiText, encode, String.toList_ofList]
  induction bytes with
  | nil => rfl
  | cons byte bytes ih =>
    rw [List.map_cons, List.flatMap_cons, encodeChar_ofNat_toNat (hascii byte List.mem_cons_self),
      ih fun other hother ↦ hascii other (List.mem_cons_of_mem _ hother), List.singleton_append]

/-- A character occurs in the text of some bytes as often as its byte among them. -/
theorem count_toList_asciiText (character : Char) (hascii : character.toNat < 0x80)
    (bytes : Bytes) :
    (asciiText bytes).toList.count character = bytes.count (ascii character) := by
  have hinjective : Function.Injective fun byte : UInt8 ↦ Char.ofNat byte.toNat := by
    intro first second hsame
    have htoNat := congrArg Char.toNat hsame
    dsimp only at htoNat
    rw [toNat_ofNat_toNat, toNat_ofNat_toNat] at htoNat
    exact UInt8.toNat_inj.mp htoNat
  have hback : Char.ofNat (ascii character).toNat = character := by
    rw [ascii, toNat_ofNat_of_lt (by omega), Char.ofNat_toNat]
  rw [asciiText, String.toList_ofList]
  conv => lhs; rw [← hback]
  exact List.count_map_of_injective bytes _ hinjective (ascii character)

theorem encode_append (front back : String) :
    encode (front ++ back) = encode front ++ encode back := by
  rw [encode, String.toList_append, List.flatMap_append, encode, encode]

/-- An ASCII character occurs in a text as often as its byte does in the bytes. -/
theorem count_encode {mark : Char} (hmark : mark.toNat < 0x80) (text : String) :
    (encode text).count (ascii mark) = text.toList.count mark := by
  rw [encode]
  induction text.toList with
  | nil => rfl
  | cons character characters ih =>
    rw [List.flatMap_cons, List.count_append, ih]
    by_cases hcharacter : character = mark
    · rw [hcharacter, encodeChar_of_lt hmark, List.count_cons_self, List.count_cons_self,
        List.count_nil, Nat.zero_add, Nat.add_comm]
    · have hnone : ascii mark ∉ encodeChar character :=
        fun hmem ↦ hcharacter (eq_of_ascii_mem_encodeChar hmark hmem)
      rw [List.count_eq_zero.mpr hnone, List.count_cons_of_ne hcharacter, Nat.zero_add]

/-! ### One spelling -/

theorem toNat_ofNat_of_valid {value : Nat}
    (hvalid : value < 0xD800 ∨ 0xDFFF < value ∧ value < 0x110000) :
    (Char.ofNat value).toNat = value := by
  rw [Char.ofNat, dif_pos hvalid]
  rfl

theorem ofNat_eq_of_toNat (byte : UInt8) {value : Nat} (h : value = byte.toNat) :
    UInt8.ofNat value = byte := by
  rw [h, UInt8.ofNat_toNat]

/-- The bits, the range of the second byte and the number of further bytes go together. -/
theorem lead?_cases {byte : UInt8} {lead : Lead} (h : lead? byte = some lead) :
    0x80 ≤ lead.low ∧ lead.high ≤ 0xBF ∧
      (lead.tails = 0 ∧ byte.toNat = 0xC0 + lead.bits ∧ 2 ≤ lead.bits ∧ lead.bits < 32 ∨
      lead.tails = 1 ∧ byte.toNat = 0xE0 + lead.bits ∧ lead.bits < 16 ∧
        (lead.bits = 0 → 0xA0 ≤ lead.low) ∧ (lead.bits = 13 → lead.high ≤ 0x9F) ∨
      lead.tails = 2 ∧ byte.toNat = 0xF0 + lead.bits ∧ lead.bits < 5 ∧
        (lead.bits = 0 → 0x90 ≤ lead.low) ∧ (lead.bits = 4 → lead.high ≤ 0x8F)) := by
  unfold lead? at h
  dsimp only at h
  split_ifs at h
  all_goals
    rw [← Option.some.inj h]
    dsimp only
    omega

theorem exists_of_tails {count value : Nat} {rest others : Bytes} {character : Char}
    (h : tails (count + 1) value rest = .character character others) :
    ∃ byte left, rest = byte :: left ∧ (0x80 ≤ byte.toNat ∧ byte.toNat ≤ 0xBF) ∧
      tails count (value * 64 + (byte.toNat - 0x80)) left = .character character others := by
  cases rest with
  | nil => cases h
  | cons byte left =>
    rw [tails] at h
    split at h
    · next htail =>
      rw [isTail, Bool.and_eq_true, decide_eq_true_eq, decide_eq_true_eq] at htail
      exact ⟨byte, left, rfl, htail, h⟩
    · cases h

section Widths

variable {byte second third fourth : UInt8} {bits : Nat}

theorem encodeChar_two (hbyte : byte.toNat = 0xC0 + bits) (hleast : 2 ≤ bits) (hmost : bits < 32)
    (hsecond : 0x80 ≤ second.toNat ∧ second.toNat ≤ 0xBF) :
    encodeChar (Char.ofNat (bits * 64 + (second.toNat - 0x80))) = [byte, second] := by
  rw [encodeChar, toNat_ofNat_of_valid (by omega), if_neg (by omega), if_pos (by omega),
    ofNat_eq_of_toNat byte (by omega), ofNat_eq_of_toNat second (by omega)]

theorem encodeChar_three (hbyte : byte.toNat = 0xE0 + bits) (hbits : bits < 16)
    (hsecond : 0x80 ≤ second.toNat ∧ second.toNat ≤ 0xBF) (hleast : bits = 0 → 0xA0 ≤ second.toNat)
    (hsurrogate : bits = 13 → second.toNat ≤ 0x9F)
    (hthird : 0x80 ≤ third.toNat ∧ third.toNat ≤ 0xBF) :
    encodeChar (Char.ofNat ((bits * 64 + (second.toNat - 0x80)) * 64 + (third.toNat - 0x80))) =
      [byte, second, third] := by
  rw [encodeChar, toNat_ofNat_of_valid (by omega), if_neg (by omega), if_neg (by omega),
    if_pos (by omega), ofNat_eq_of_toNat byte (by omega),
    ofNat_eq_of_toNat second (by omega), ofNat_eq_of_toNat third (by omega)]

theorem encodeChar_four (hbyte : byte.toNat = 0xF0 + bits) (hbits : bits < 5)
    (hsecond : 0x80 ≤ second.toNat ∧ second.toNat ≤ 0xBF) (hleast : bits = 0 → 0x90 ≤ second.toNat)
    (hmost : bits = 4 → second.toNat ≤ 0x8F) (hthird : 0x80 ≤ third.toNat ∧ third.toNat ≤ 0xBF)
    (hfourth : 0x80 ≤ fourth.toNat ∧ fourth.toNat ≤ 0xBF) :
    encodeChar (Char.ofNat (((bits * 64 + (second.toNat - 0x80)) * 64 + (third.toNat - 0x80)) * 64 +
      (fourth.toNat - 0x80))) = [byte, second, third, fourth] := by
  rw [encodeChar, toNat_ofNat_of_valid (by omega), if_neg (by omega), if_neg (by omega),
    if_neg (by omega), ofNat_eq_of_toNat byte (by omega),
    ofNat_eq_of_toNat second (by omega), ofNat_eq_of_toNat third (by omega),
    ofNat_eq_of_toNat fourth (by omega)]

end Widths

/-- A character that is read from the front is written as the bytes that it was read from. -/
theorem encodeChar_of_front {byte : UInt8} {rest others : Bytes} {character : Char}
    (h : front byte rest = .character character others) :
    encodeChar character ++ others = byte :: rest := by
  unfold front at h
  split at h
  · next hascii =>
    rw [Front.character.injEq] at h
    rw [← h.1, ← h.2, encodeChar_ofNat_toNat hascii, List.singleton_append]
  split at h
  · cases h
  · cases h
  next lead second left hlead =>
  split at h
  · next hrange =>
    rw [Bool.and_eq_true, decide_eq_true_eq, decide_eq_true_eq] at hrange
    obtain ⟨hlow, hhigh, htwo | hthree | hfour⟩ := lead?_cases hlead
    · obtain ⟨htails, hbyte, hleast, hbits⟩ := htwo
      rw [htails, tails, Front.character.injEq] at h
      rw [← h.1, ← h.2, encodeChar_two hbyte hleast hbits (by omega)]
      rfl
    · obtain ⟨htails, hbyte, hbits, hleast, hsurrogate⟩ := hthree
      rw [htails] at h
      obtain ⟨third, left, rfl, hthird, h⟩ := exists_of_tails h
      rw [tails, Front.character.injEq] at h
      rw [← h.1, ← h.2, encodeChar_three hbyte hbits (by omega) (by omega) (by omega) hthird]
      rfl
    · obtain ⟨htails, hbyte, hbits, hleast, hmost⟩ := hfour
      rw [htails] at h
      obtain ⟨third, left, rfl, hthird, h⟩ := exists_of_tails h
      obtain ⟨fourth, left, rfl, hfourth, h⟩ := exists_of_tails h
      rw [tails, Front.character.injEq] at h
      rw [← h.1, ← h.2, encodeChar_four hbyte hbits (by omega) (by omega) (by omega) hthird hfourth]
      rfl
  · cases h

theorem flatMap_of_decodeChars? {bytes : Bytes} {characters : List Char}
    (h : decodeChars? bytes = some characters) : characters.flatMap encodeChar = bytes := by
  fun_induction decodeChars? bytes generalizing characters with
  | case1 =>
    rw [← Option.some.inj h]
    rfl
  | case2 byte rest value others hfront ih =>
    obtain ⟨left, hleft, rfl⟩ := Option.map_eq_some_iff.mp h
    rw [List.flatMap_cons, ih hleft, encodeChar_of_front hfront]
  | case3 byte rest others hfront => cases h

/-- Bytes that read as a text are the bytes of this text. -/
theorem encode_of_decode? {bytes : Bytes} {text : String} (h : decode? bytes = some text) :
    encode text = bytes := by
  obtain ⟨characters, hcharacters, rfl⟩ := Option.map_eq_some_iff.mp h
  rw [encode, String.toList_ofList, flatMap_of_decodeChars? hcharacters]

theorem decode?_eq_some_iff {bytes : Bytes} {text : String} :
    decode? bytes = some text ↔ encode text = bytes :=
  ⟨encode_of_decode?, fun h ↦ h ▸ decode?_encode text⟩

/-- Bytes that read as no text are the bytes of none. -/
theorem decode?_eq_none_iff {bytes : Bytes} :
    decode? bytes = none ↔ ∀ text, encode text ≠ bytes := by
  rw [Option.eq_none_iff_forall_ne_some]
  exact forall_congr' fun text ↦ not_congr decode?_eq_some_iff

/-! ### Lengths -/

theorem length_encodeChar (character : Char) :
    (encodeChar character).length = character.utf8Size := by
  have hone : character.utf8Size = 1 ↔ character.toNat ≤ 0x7F := Char.utf8Size_eq_one_iff
  have htwo : character.utf8Size = 2 ↔ 0x7F < character.toNat ∧ character.toNat ≤ 0x7FF :=
    Char.utf8Size_eq_two_iff
  have hthree : character.utf8Size = 3 ↔ 0x7FF < character.toNat ∧ character.toNat ≤ 0xFFFF :=
    Char.utf8Size_eq_three_iff
  have hfour : character.utf8Size = 4 ↔ 0xFFFF < character.toNat := Char.utf8Size_eq_four_iff
  unfold encodeChar
  dsimp only
  split_ifs
  · exact (hone.mpr (by omega)).symm
  · exact (htwo.mpr (by omega)).symm
  · exact (hthree.mpr (by omega)).symm
  · exact (hfour.mpr (by omega)).symm

/-- A text is written with as many bytes as the library counts. -/
theorem utf8ByteSize_eq_length_encode (text : String) :
    text.utf8ByteSize = (encode text).length := by
  rw [encode, ← String.utf8Len_toList]
  induction text.toList with
  | nil => rfl
  | cons character characters ih =>
    rw [List.flatMap_cons, List.length_append, ← ih, length_encodeChar, String.utf8Len_cons,
      Nat.add_comm]

end TokenService.Text.Utf8
