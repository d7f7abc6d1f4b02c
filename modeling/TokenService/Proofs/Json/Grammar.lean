import Mathlib.Data.List.Forall2
import Mathlib.Data.List.TakeWhile
import TokenService.Json.Value
import TokenService.Proofs.Json.Number
import TokenService.Proofs.Json.Text

/-!
# The grammar of JSON texts

What the values of a JSON text look like, said without a reader. Blanks, digits and the parts of a
list are described first, then scalars, and last the values that are built from others.

Some values are kept and some are passed over, and the grammar asks more of the first. A kept string
spells a text character by character (`SpellsText`), and a kept integer is within 64 bits and not
minus zero (`SpellsInteger`). Of a value that is passed over only the shape matters (`IsValue`): the
escapes of its strings may name half a surrogate pair, their bytes need not be text, and its numbers
may be of any size.

Lists and objects are put together alike. `Separated` says how their parts are set apart, so that an
object is a list of members in other brackets.
-/

set_option autoImplicit false
set_option relaxedAutoImplicit false

namespace TokenService.Json

open Text.Utf8 (encodeChar)

/-! ### Blanks -/

/-- Bytes that may stand between the parts of a text. -/
def Blanks (bytes : Bytes) : Prop :=
  ∀ byte ∈ bytes, isBlank byte = true

theorem Blanks.nil : Blanks [] := by
  simp [Blanks]

theorem Blanks.append {before after : Bytes} (hbefore : Blanks before) (hafter : Blanks after) :
    Blanks (before ++ after) := by
  intro byte hbyte
  rcases List.mem_append.mp hbyte with hbyte | hbyte
  · exact hbefore byte hbyte
  · exact hafter byte hbyte

theorem skipBlanks_append {blanks : Bytes} (hblanks : Blanks blanks) (bytes : Bytes) :
    skipBlanks (blanks ++ bytes) = skipBlanks bytes := by
  rw [skipBlanks, List.dropWhile_append_of_pos hblanks, skipBlanks]

theorem skipBlanks_append_cons {blanks : Bytes} (hblanks : Blanks blanks) {byte : UInt8}
    (hbyte : isBlank byte = false) (rest : Bytes) :
    skipBlanks (blanks ++ byte :: rest) = byte :: rest := by
  rw [skipBlanks_append hblanks, skipBlanks_cons hbyte]

theorem exists_blanks (bytes : Bytes) :
    ∃ blanks, Blanks blanks ∧ bytes = blanks ++ skipBlanks bytes :=
  ⟨bytes.takeWhile isBlank, fun _ ↦ List.mem_takeWhile_imp, List.takeWhile_append_dropWhile.symm⟩

/-- What is left behind the blanks, from its first byte. -/
theorem skipBlanks_eq_cons_iff {bytes rest : Bytes} {byte : UInt8} :
    skipBlanks bytes = byte :: rest ↔
      isBlank byte = false ∧ ∃ blanks, Blanks blanks ∧ bytes = blanks ++ byte :: rest := by
  constructor
  · intro h
    obtain ⟨blanks, hblanks, hbytes⟩ := exists_blanks bytes
    exact ⟨isBlank_of_skipBlanks h, blanks, hblanks, by rw [← h, ← hbytes]⟩
  · rintro ⟨hbyte, blanks, hblanks, rfl⟩
    exact skipBlanks_append_cons hblanks hbyte rest

theorem skipBlanks_eq_nil_iff {bytes : Bytes} : skipBlanks bytes = [] ↔ Blanks bytes := by
  rw [skipBlanks, List.dropWhile_eq_nil_iff]
  rfl

/-! ### Strings -/

/-- The escapes of one letter: what stands behind the backslash, and the character that it means. -/
def escapeLetters : List (Char × Char) :=
  [('"', '"'), ('\\', '\\'), ('/', '/'), ('b', '\x08'), ('f', '\x0c'), ('n', '\n'), ('r', '\r'),
    ('t', '\t')]

/-- A hexadecimal digit of some value, in either case. -/
def IsHexDigit (value : Nat) (byte : UInt8) : Prop :=
  Text.Hex.value? byte.toNat = some value

/-- The four hexadecimal digits of a code unit. -/
inductive SpellsUnit : Nat → Bytes → Prop
  | digits {first second third fourth : Nat} {one two three four : UInt8}
      (hfirst : IsHexDigit first one) (hsecond : IsHexDigit second two)
      (hthird : IsHexDigit third three) (hfourth : IsHexDigit fourth four) :
      SpellsUnit (((first * 16 + second) * 16 + third) * 16 + fourth) [one, two, three, four]

/-- The spellings of a character in a string: itself, unless it has to be escaped, and its escapes
by a letter, by its code unit, and by the two code units of a surrogate pair. -/
inductive SpellsChar : Char → Bytes → Prop
  | plain {character : Char} (hquote : character ≠ '"') (hescape : character ≠ '\\')
      (hcontrol : 0x20 ≤ character.toNat) : SpellsChar character (encodeChar character)
  | letter {letter character : Char} (hletter : (letter, character) ∈ escapeLetters) :
      SpellsChar character [backslash, ascii letter]
  | unit {character : Char} {digits : Bytes} (hdigits : SpellsUnit character.toNat digits) :
      SpellsChar character (backslash :: ascii 'u' :: digits)
  | pair {character : Char} {high low : Nat} {first second : Bytes}
      (hhigh : high < 0x400) (hlow : low < 0x400)
      (hfirst : SpellsUnit (0xD800 + high) first) (hsecond : SpellsUnit (0xDC00 + low) second)
      (hcharacter : character.toNat = high * 0x400 + low + 0x10000) :
      SpellsChar character
        (backslash :: ascii 'u' :: (first ++ backslash :: ascii 'u' :: second))

/-- The spellings of a text between its quotes. -/
def SpellsText (text : String) (token : Bytes) : Prop :=
  ∃ parts : List Bytes, List.Forall₂ SpellsChar text.toList parts ∧
    token = quoteMark :: (parts.flatten ++ [quoteMark])

/-- What a string that nobody wants may consist of: plain bytes and the shapes of escapes. -/
inductive IsPiece : Bytes → Prop
  | plain {byte : UInt8} (hplain : IsPlain byte) : IsPiece [byte]
  | letter {letter character : Char} (hletter : (letter, character) ∈ escapeLetters) :
      IsPiece [backslash, ascii letter]
  | unit {value : Nat} {digits : Bytes} (hdigits : SpellsUnit value digits) :
      IsPiece (backslash :: ascii 'u' :: digits)

/-- A string that nobody wants, between its quotes. -/
def IsString (token : Bytes) : Prop :=
  ∃ parts : List Bytes, (∀ part ∈ parts, IsPiece part) ∧
    token = quoteMark :: (parts.flatten ++ [quoteMark])

/-! ### Numbers -/

/-- One or more digits. -/
def IsDigits (digits : Bytes) : Prop :=
  digits ≠ [] ∧ ∀ byte ∈ digits, isDigit byte = true

/-- One or more digits without a leading zero, unless it is the only digit. -/
def IsNatural (digits : Bytes) : Prop :=
  IsDigits digits ∧ (digits.head? = some (ascii '0') → digits = [ascii '0'])

/-- The spellings of an integer within 64 bits. Zero has no sign. -/
inductive SpellsInteger : Int → Bytes → Prop
  | natural {digits : Bytes} (hdigits : IsNatural digits)
      (hfits : Decimal.Integer.Fits (ofDigits digits)) : SpellsInteger (ofDigits digits) digits
  | negative {digits : Bytes} (hdigits : IsNatural digits) (hnonzero : ofDigits digits ≠ 0)
      (hfits : Decimal.Integer.Fits (-ofDigits digits)) :
      SpellsInteger (-ofDigits digits) (ascii '-' :: digits)

/-- A sign, which may be left out. -/
def IsSign (signs : List Char) (sign : Bytes) : Prop :=
  sign = [] ∨ ∃ mark ∈ signs, sign = [ascii mark]

/-- A fraction, which may be left out. -/
inductive IsFraction : Bytes → Prop
  | none : IsFraction []
  | digits {digits : Bytes} (hdigits : IsDigits digits) : IsFraction (point :: digits)

/-- An exponent, which may be left out. -/
inductive IsExponent : Bytes → Prop
  | none : IsExponent []
  | digits {mark : UInt8} {sign digits : Bytes} (hmark : mark = ascii 'e' ∨ mark = ascii 'E')
      (hsign : IsSign ['+', '-'] sign) (hdigits : IsDigits digits) :
      IsExponent (mark :: (sign ++ digits))

/-- A number of any size. -/
inductive IsNumber : Bytes → Prop
  | parts {sign digits fraction exponent : Bytes} (hsign : IsSign ['-'] sign)
      (hdigits : IsNatural digits) (hfraction : IsFraction fraction)
      (hexponent : IsExponent exponent) : IsNumber (sign ++ (digits ++ (fraction ++ exponent)))

/-! ### Parts and members -/

/-- What stands in front of a part: blanks, and a comma between them unless it is the first. -/
inductive Leads : Bool → Bytes → Prop
  | first {blanks : Bytes} (hblanks : Blanks blanks) : Leads true blanks
  | later {before after : Bytes} (hbefore : Blanks before) (hafter : Blanks after) :
      Leads false (before ++ ascii ',' :: after)

/-- Parts with commas between them and blanks around them. The flag tells whether the first part of
all is among them. -/
inductive Separated : Bool → List Bytes → Bytes → Prop
  | nil {first : Bool} {blanks : Bytes} (hblanks : Blanks blanks) : Separated first [] blanks
  | cons {first : Bool} {front part rest : Bytes} {parts : List Bytes} (hfront : Leads first front)
      (hrest : Separated false parts rest) :
      Separated first (part :: parts) (front ++ (part ++ rest))

/-- What a part begins with tells it from the blanks in front of it and from the end of a list. -/
def Begins (part : Bytes) : Prop :=
  ∃ byte others, part = byte :: others ∧ isBlank byte = false ∧ byte ≠ ascii ']'

/-- The pieces of a member: a key and a value, and the blanks beside the colon. -/
structure Entry where
  key : Bytes
  before : Bytes
  after : Bytes
  value : Bytes
  before_blanks : Blanks before
  after_blanks : Blanks after

/-- The bytes of a member. -/
def Entry.text (entry : Entry) : Bytes :=
  entry.key ++ (entry.before ++ ascii ':' :: (entry.after ++ entry.value))

/-! ### Values -/

/-- A well-formed value, nested as deep as may be. -/
inductive IsValue : Bytes → Prop
  | word {word : String} (hword : word ∈ ["null", "true", "false"]) : IsValue (asciiBytes word)
  | number {token : Bytes} (htoken : IsNumber token) : IsValue token
  | string {token : Bytes} (htoken : IsString token) : IsValue token
  | list {values : List Bytes} {inner : Bytes} (hinner : Separated true values inner)
      (hvalues : ∀ value ∈ values, IsValue value) :
      IsValue (ascii '[' :: (inner ++ [ascii ']']))
  | object {entries : List Entry} {inner : Bytes}
      (hinner : Separated true (entries.map Entry.text) inner)
      (hkeys : ∀ entry ∈ entries, IsString entry.key)
      (hvalues : ∀ entry ∈ entries, IsValue entry.value) :
      IsValue (ascii '\x7b' :: (inner ++ [ascii '\x7d']))

/-- The spellings of a list of values, by those of its elements. -/
def SpellsList {α : Type} (Spells : α → Bytes → Prop) (values : List α) (token : Bytes) : Prop :=
  ∃ parts inner, List.Forall₂ Spells values parts ∧ Separated true parts inner ∧
    token = ascii '[' :: (inner ++ [ascii ']'])

/-- The spellings of a member with a name that is kept, beside the bytes of its value. -/
def SpellsMember (member : String × Bytes) (part : Bytes) : Prop :=
  ∃ entry : Entry, SpellsText member.1 entry.key ∧ entry.value = member.2 ∧ part = entry.text

section Members

variable {α : Type} {name other : String}

theorem mem_valuesOf_iff {value : α} {members : List (String × α)} :
    value ∈ valuesOf name members ↔ (name, value) ∈ members := by
  simp [valuesOf]

theorem valuesOf_cons_self (name : String) (value : α) (members : List (String × α)) :
    valuesOf name ((name, value) :: members) = value :: valuesOf name members := by
  simp [valuesOf]

theorem valuesOf_cons_of_ne (hother : other ≠ name) (value : α) (members : List (String × α)) :
    valuesOf name ((other, value) :: members) = valuesOf name members := by
  simp [valuesOf, hother]

end Members

/-- The spellings of an object whose names are kept, by the bytes of its values. -/
def SpellsObject (members : List (String × Bytes)) (token : Bytes) : Prop :=
  ∃ parts inner, List.Forall₂ SpellsMember members parts ∧ Separated true parts inner ∧
    token = ascii '\x7b' :: (inner ++ [ascii '\x7d'])

/-! ### Objects without blanks -/

theorem separated_intercalate {first : Bool} {front : Bytes} (hfront : Leads first front)
    (part : Bytes) (parts : List Bytes) :
    Separated first (part :: parts) (front ++ [ascii ','].intercalate (part :: parts)) := by
  induction parts generalizing first front part with
  | nil =>
    have hlast : Separated first [part] (front ++ (part ++ [])) := .cons hfront (.nil .nil)
    rw [List.append_nil] at hlast
    rwa [List.intercalate_singleton]
  | cons next parts ih =>
    have hcomma : Leads false [ascii ','] := .later .nil .nil
    rw [List.intercalate_cons_cons, List.append_assoc]
    exact .cons hfront (ih hcomma next)

/-- Keys and values with colons and commas between them, and with nothing else, are an object. -/
theorem spellsObject_intercalate {entries : List (String × Bytes × Bytes)} {token : Bytes}
    (hkeys : ∀ entry ∈ entries, SpellsText entry.1 entry.2.1)
    (htoken : token = ascii '\x7b' :: ([ascii ','].intercalate
      (entries.map fun entry ↦ entry.2.1 ++ ascii ':' :: entry.2.2) ++ [ascii '\x7d'])) :
    SpellsObject (entries.map fun entry ↦ (entry.1, entry.2.2)) token := by
  refine ⟨entries.map fun entry ↦ entry.2.1 ++ ascii ':' :: entry.2.2, _, ?_, ?_, htoken⟩
  · rw [List.forall₂_map_left_iff, List.forall₂_map_right_iff, List.forall₂_same]
    exact fun entry hentry ↦
      ⟨⟨entry.2.1, [], [], entry.2.2, .nil, .nil⟩, hkeys entry hentry, rfl, rfl⟩
  · cases entries with
    | nil => exact .nil .nil
    | cons entry entries => exact separated_intercalate (.first .nil) _ _

end TokenService.Json
