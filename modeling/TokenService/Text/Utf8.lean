/-!
# UTF-8

Texts travel as bytes. `encode` writes a text, `decode?` reads one back and refuses every byte
sequence that no text has, and `decodeLossy` reads whatever it is given, with one replacement
character for each maximal ill-formed part. Both readers look at the front of the bytes through
`front`, which tells a whole character from an ill-formed part; `dropWellFormed` finds the place
where a text stops being well formed.
-/

set_option autoImplicit false
set_option relaxedAutoImplicit false

namespace TokenService

/-- A text as it travels. -/
abbrev Bytes := List UInt8

/-- The byte of an ASCII character. -/
abbrev ascii (character : Char) : UInt8 := UInt8.ofNat character.toNat

/-- The bytes of an ASCII text. -/
def asciiBytes (text : String) : Bytes := text.toList.map ascii

/-- The text whose characters are the given bytes, each taken as a code point. -/
def asciiText (bytes : Bytes) : String :=
  String.ofList (bytes.map fun byte ↦ Char.ofNat byte.toNat)

namespace Text.Utf8

/-! ### Writing -/

/-- The bytes of one character: one, two, three or four, by the size of its code point. -/
def encodeChar (character : Char) : Bytes :=
  let value := character.toNat
  if value < 0x80 then [UInt8.ofNat value]
  else if value < 0x800 then
    [UInt8.ofNat (0xC0 + value / 64), UInt8.ofNat (0x80 + value % 64)]
  else if value < 0x10000 then
    [UInt8.ofNat (0xE0 + value / 4096), UInt8.ofNat (0x80 + value / 64 % 64),
      UInt8.ofNat (0x80 + value % 64)]
  else
    [UInt8.ofNat (0xF0 + value / 262144), UInt8.ofNat (0x80 + value / 4096 % 64),
      UInt8.ofNat (0x80 + value / 64 % 64), UInt8.ofNat (0x80 + value % 64)]

/-- The bytes of a text. -/
def encode (text : String) : Bytes :=
  text.toList.flatMap encodeChar

/-! ### The front of a byte sequence -/

/-- What stands at the front of some bytes: a character, or the longest part that begins like one
and is none. Either way the bytes after it. -/
inductive Front
  | character (value : Char) (rest : Bytes)
  | illFormed (rest : Bytes)

/-- The bytes after the front. -/
def Front.rest : Front → Bytes
  | .character _ rest => rest
  | .illFormed rest => rest

/-- The first byte of a character of several bytes: the bits of the code point that it carries, the
range of the byte after it, and how many more bytes follow that one. -/
structure Lead where
  bits : Nat
  low : Nat
  high : Nat
  tails : Nat

/-- The range of the second byte keeps out longer spellings of small code points, surrogates, and
whatever lies beyond the last code point. -/
def lead? (byte : UInt8) : Option Lead :=
  let value := byte.toNat
  if value < 0xC2 then none
  else if value < 0xE0 then some ⟨value - 0xC0, 0x80, 0xBF, 0⟩
  else if value = 0xE0 then some ⟨0, 0xA0, 0xBF, 1⟩
  else if value = 0xED then some ⟨13, 0x80, 0x9F, 1⟩
  else if value < 0xF0 then some ⟨value - 0xE0, 0x80, 0xBF, 1⟩
  else if value = 0xF0 then some ⟨0, 0x90, 0xBF, 2⟩
  else if value < 0xF4 then some ⟨value - 0xF0, 0x80, 0xBF, 2⟩
  else if value = 0xF4 then some ⟨4, 0x80, 0x8F, 2⟩
  else none

/-- A byte that continues a character. -/
def isTail (byte : UInt8) : Bool :=
  0x80 ≤ byte.toNat && byte.toNat ≤ 0xBF

/-- The rest of a character of which `count` bytes are still to come, `value` being what the bytes
before them amount to. -/
def tails : (count value : Nat) → Bytes → Front
  | 0, value, rest => .character (Char.ofNat value) rest
  | _ + 1, _, [] => .illFormed []
  | count + 1, value, byte :: rest =>
    if isTail byte then tails count (value * 64 + (byte.toNat - 0x80)) rest
    else .illFormed (byte :: rest)

/-- The front of the bytes that begin with `byte`. -/
def front (byte : UInt8) (rest : Bytes) : Front :=
  if byte.toNat < 0x80 then .character (Char.ofNat byte.toNat) rest
  else
    match lead? byte, rest with
    | none, _ => .illFormed rest
    | some _, [] => .illFormed []
    | some lead, second :: others =>
      if lead.low ≤ second.toNat && second.toNat ≤ lead.high then
        tails lead.tails (lead.bits * 64 + (second.toNat - 0x80)) others
      else .illFormed rest

theorem tails_rest_length_le (count value : Nat) (bytes : Bytes) :
    (tails count value bytes).rest.length ≤ bytes.length := by
  induction count generalizing value bytes with
  | zero => simp [tails, Front.rest]
  | succ count ih =>
    cases bytes with
    | nil => simp [tails, Front.rest]
    | cons byte rest =>
      simp only [tails]
      split
      · exact Nat.le_succ_of_le (ih _ rest)
      · simp [Front.rest]

theorem front_rest_length_le (byte : UInt8) (rest : Bytes) :
    (front byte rest).rest.length ≤ rest.length := by
  unfold front
  split
  · simp [Front.rest]
  · split
    · simp [Front.rest]
    · simp [Front.rest]
    · split
      · exact Nat.le_succ_of_le (tails_rest_length_le _ _ _)
      · simp [Front.rest]

/-! ### Reading -/

/-- The characters of a well-formed text. -/
def decodeChars? : Bytes → Option (List Char)
  | [] => some []
  | byte :: rest =>
    match _seen : front byte rest with
    | .character value others => (decodeChars? others).map (value :: ·)
    | .illFormed _ => none
termination_by bytes => bytes.length
decreasing_by
  have shorter := front_rest_length_le byte rest
  rw [_seen] at shorter
  simp only [Front.rest] at shorter
  simp only [List.length_cons]
  omega

/-- The text that the bytes spell, if they are well formed. -/
def decode? (bytes : Bytes) : Option String :=
  (decodeChars? bytes).map String.ofList

/-- The characters of any bytes, ill-formed parts replaced. -/
def decodeCharsLossy : Bytes → List Char
  | [] => []
  | byte :: rest =>
    match _seen : front byte rest with
    | .character value others => value :: decodeCharsLossy others
    | .illFormed others => '\uFFFD' :: decodeCharsLossy others
termination_by bytes => bytes.length
decreasing_by
  all_goals
    have shorter := front_rest_length_le byte rest
    rw [_seen] at shorter
    simp only [Front.rest] at shorter
    simp only [List.length_cons]
    omega

/-- The text nearest to any bytes: each maximal ill-formed part becomes one U+FFFD. -/
def decodeLossy (bytes : Bytes) : String :=
  String.ofList (decodeCharsLossy bytes)

/-- The bytes from the first one that is no part of a well-formed text. -/
def dropWellFormed : Bytes → Bytes
  | [] => []
  | byte :: rest =>
    match _seen : front byte rest with
    | .character _ others => dropWellFormed others
    | .illFormed _ => byte :: rest
termination_by bytes => bytes.length
decreasing_by
  have shorter := front_rest_length_le byte rest
  rw [_seen] at shorter
  simp only [Front.rest] at shorter
  simp only [List.length_cons]
  omega

end Text.Utf8

end TokenService
