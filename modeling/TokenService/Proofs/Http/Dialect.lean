import Mathlib.Tactic.IntervalCases
import TokenService.Http.Form
import TokenService.Http.Target
import TokenService.Proofs.Text.Utf8

/-!
# Spellings of a text

A text has many spellings in a target. Each of its characters may stand there as it is, unless it is
a mark of the place or not allowed there, and each of its bytes may be percent-encoded, with digits
in either case (`Percent.Escapes`). A query has one more way to spell a space. Paths and queries are
two dialects of one kind (`Dialect.path`, `Dialect.query`).

A dialect reads every spelling of a text as this text (`Dialect.read_of_spellsText`). One step takes
the spelling of one character off the front, whatever comes behind it (`Dialect.read_append`), and a
run takes these steps one after another (`Spelled.read`).
-/

set_option autoImplicit false
set_option relaxedAutoImplicit false

namespace TokenService.Http

open Text.Utf8 (encode encodeChar)

/-! ### Runs -/

/-- Bytes that spell some items one after another. -/
inductive Spelled {Item : Type} (spells : Item → Bytes → Prop) : List Item → Bytes → Prop
  | nil : Spelled spells [] []
  | cons {item : Item} {items : List Item} {part rest : Bytes} (hpart : spells item part)
      (hrest : Spelled spells items rest) : Spelled spells (item :: items) (part ++ rest)

namespace Spelled

variable {Item : Type} {spells : Item → Bytes → Prop} {items : List Item} {bytes : Bytes}

/-- A reader that takes the spelling of one item off the front does so with all of them. -/
theorem read (reader : Bytes → Bytes) (write : Item → Bytes)
    (hstep : ∀ item part rest, spells item part →
      reader (part ++ rest) = write item ++ reader rest)
    (h : Spelled spells items bytes) (rest : Bytes) :
    reader (bytes ++ rest) = items.flatMap write ++ reader rest := by
  induction h with
  | nil => rfl
  | cons hpart _ ih =>
    rw [List.append_assoc, hstep _ _ _ hpart, ih, List.flatMap_cons, List.append_assoc]

theorem forall_mem (property : UInt8 → Prop)
    (hstep : ∀ item ∈ items, ∀ part, spells item part → ∀ byte ∈ part, property byte)
    (h : Spelled spells items bytes) : ∀ byte ∈ bytes, property byte := by
  induction h with
  | nil => exact nofun
  | cons hpart _ ih =>
    intro byte hbyte
    rcases List.mem_append.mp hbyte with hbyte | hbyte
    · exact hstep _ List.mem_cons_self _ hpart byte hbyte
    · exact ih (fun item hitem ↦ hstep item (List.mem_cons_of_mem _ hitem)) byte hbyte

end Spelled

/-! ### Percent encoding -/

namespace Percent

/-- A byte that is a hexadecimal digit of some value, in either case. -/
def IsDigit (value : Nat) (byte : UInt8) : Prop :=
  byte = ascii (Text.Hex.digit value) ∨ byte = ascii (Text.Hex.digit value).toUpper

/-- The spellings of a byte: the sign and two digits. -/
inductive Escapes (byte : UInt8) : Bytes → Prop
  | digits {high low : UInt8} (hhigh : IsDigit (byte.toNat / 16) high)
      (hlow : IsDigit (byte.toNat % 16) low) : Escapes byte [sign, high, low]

/-- All bytes that an encoded byte may be spelled with. -/
def escapeBytes : Bytes := asciiBytes "%0123456789ABCDEFabcdef"

section Digits

variable {value : Nat} {byte : UInt8} (hvalue : value < 16) (hdigit : IsDigit value byte)
include hvalue hdigit

theorem value?_of_isDigit : Text.Hex.value? byte.toNat = some value := by
  rcases hdigit with rfl | rfl <;> interval_cases value <;> rfl

theorem mem_of_isDigit : byte ∈ escapeBytes := by
  rcases hdigit with rfl | rfl <;> interval_cases value <;> decide

end Digits

variable {byte : UInt8} {part : Bytes}

theorem mem_of_escapes (h : Escapes byte part) : ∀ other ∈ part, other ∈ escapeBytes := by
  have hbyte := byte.toNat_lt
  obtain ⟨hhigh, hlow⟩ := h
  intro other hother
  simp only [List.mem_cons, List.not_mem_nil, or_false] at hother
  rcases hother with rfl | rfl | rfl
  · decide
  · exact mem_of_isDigit (by omega) hhigh
  · exact mem_of_isDigit (by omega) hlow

theorem decode_of_ne (hbyte : byte ≠ sign) (rest : Bytes) :
    decode (byte :: rest) = byte :: decode rest := by
  rcases rest with _ | ⟨high, _ | ⟨low, rest⟩⟩
  · rfl
  · rfl
  · rw [decode, if_neg hbyte]

theorem decode_append_of_not_mem (hpart : sign ∉ part) (rest : Bytes) :
    decode (part ++ rest) = part ++ decode rest := by
  induction part with
  | nil => rfl
  | cons byte part ih =>
    rw [List.mem_cons, not_or] at hpart
    rw [List.cons_append, decode_of_ne (Ne.symm hpart.1), ih hpart.2, List.cons_append]

theorem decode_append_of_escapes (h : Escapes byte part) (rest : Bytes) :
    decode (part ++ rest) = byte :: decode rest := by
  have hbyte := byte.toNat_lt
  cases h with
  | @digits high low hhigh hlow =>
    have hvalue : byte? high low = some byte := by
      have hwhole : byte.toNat / 16 * 16 + byte.toNat % 16 = byte.toNat := by omega
      rw [byte?, value?_of_isDigit (by omega) hhigh, value?_of_isDigit (by omega) hlow]
      change some (UInt8.ofNat (byte.toNat / 16 * 16 + byte.toNat % 16)) = some byte
      rw [hwhole, UInt8.ofNat_toNat]
    change decode (sign :: high :: low :: rest) = _
    rw [decode, if_pos rfl, hvalue]

end Percent

/-! ### Dialects -/

/-- A place in which texts are spelled: the bytes that may stand there, the characters that mean
something else there than themselves, and whether a plus sign is one of the spellings of a space. -/
structure Dialect where
  isAllowed : UInt8 → Bool
  marks : List Char
  hasPlus : Bool
  escapeBytes_allowed : ∀ byte ∈ Percent.escapeBytes, isAllowed byte = true
  plus_allowed : isAllowed (ascii '+') = true
  sign_mem : '%' ∈ marks
  plus_mem : hasPlus = true → '+' ∈ marks

namespace Dialect

/-- The last segment of a path. -/
def path : Dialect where
  isAllowed := Target.isPathByte
  marks := ['%', '/', '?', '#']
  hasPlus := false
  escapeBytes_allowed := List.all_eq_true.mp (by decide)
  plus_allowed := by decide
  sign_mem := by decide
  plus_mem := nofun

/-- The names and values of a query. -/
def query : Dialect where
  isAllowed := Target.isQueryByte
  marks := ['%', '&', '+', '#']
  hasPlus := true
  escapeBytes_allowed := List.all_eq_true.mp (by decide)
  plus_allowed := by decide
  sign_mem := by decide
  plus_mem _ := by decide

variable (dialect : Dialect)

/-- What a byte stands for before percent signs are looked at. -/
def plain (byte : UInt8) : UInt8 :=
  if dialect.hasPlus then Form.plusToSpace byte else byte

/-- The bytes that a spelling stands for. -/
def read (bytes : Bytes) : Bytes :=
  Percent.decode (bytes.map dialect.plain)

theorem read_path (bytes : Bytes) : path.read bytes = Percent.decode bytes :=
  congrArg Percent.decode (List.map_id bytes)

theorem read_query (bytes : Bytes) :
    query.read bytes = Percent.decode (bytes.map Form.plusToSpace) :=
  rfl

/-- A character that may stand as it is: it is no mark, and its bytes are allowed. -/
def isRaw (character : Char) : Bool :=
  character ∉ dialect.marks && (encodeChar character).all dialect.isAllowed

/-- The spellings of a character. -/
inductive Spells (character : Char) : Bytes → Prop
  | raw (hraw : dialect.isRaw character = true) : Spells character (encodeChar character)
  | escaped {part : Bytes} (h : Spelled Percent.Escapes (encodeChar character) part) :
      Spells character part
  | plus (hplus : dialect.hasPlus = true) (hspace : character = ' ') :
      Spells character [ascii '+']

/-- The spellings of a text. -/
def SpellsText (text : String) (bytes : Bytes) : Prop :=
  Spelled dialect.Spells text.toList bytes

variable {dialect}

/-- A text of characters that may all stand as they are is one of its own spellings. -/
theorem spellsText_encode {text : String} (hraw : text.toList.all dialect.isRaw = true) :
    dialect.SpellsText text (encode text) := by
  rw [List.all_eq_true] at hraw
  unfold SpellsText encode
  generalize text.toList = characters at hraw ⊢
  induction characters with
  | nil => exact .nil
  | cons character characters ih =>
    exact .cons (.raw (hraw character List.mem_cons_self))
      (ih fun other hother ↦ hraw other (List.mem_cons_of_mem _ hother))

/-! ### Reading -/

theorem isRaw_iff {character : Char} : dialect.isRaw character = true ↔
    character ∉ dialect.marks ∧ ∀ byte ∈ encodeChar character, dialect.isAllowed byte = true := by
  rw [isRaw, Bool.and_eq_true, decide_eq_true_eq, List.all_eq_true]

theorem not_mem_encodeChar {character mark : Char} (hascii : mark.toNat < 0x80)
    (hmark : mark ∈ dialect.marks) (hraw : dialect.isRaw character = true) :
    ascii mark ∉ encodeChar character :=
  fun hmem ↦ (isRaw_iff.mp hraw).1 (Text.Utf8.eq_of_ascii_mem_encodeChar hascii hmem ▸ hmark)

theorem plain_of_ne {byte : UInt8} (hbyte : dialect.hasPlus = true → byte ≠ ascii '+') :
    dialect.plain byte = byte := by
  unfold plain
  split
  · next hplus => rw [Form.plusToSpace, if_neg (hbyte hplus)]
  · rfl

theorem map_plain_of_ne {part : Bytes}
    (hpart : ∀ byte ∈ part, dialect.hasPlus = true → byte ≠ ascii '+') :
    part.map dialect.plain = part :=
  calc part.map dialect.plain
    _ = part.map id := List.map_congr_left fun byte hbyte ↦ plain_of_ne (hpart byte hbyte)
    _ = part := List.map_id part

section Characters

variable {character : Char} {part : Bytes}

theorem mem_escapeBytes_of_spelled {bytes : Bytes} (h : Spelled Percent.Escapes bytes part) :
    ∀ byte ∈ part, byte ∈ Percent.escapeBytes :=
  h.forall_mem (· ∈ Percent.escapeBytes) fun _ _ _ hescapes ↦ Percent.mem_of_escapes hescapes

/-- The spelling of a character is read as its bytes, whatever comes behind it. -/
theorem read_append (h : dialect.Spells character part) (rest : Bytes) :
    dialect.read (part ++ rest) = encodeChar character ++ dialect.read rest := by
  -- Where a plus sign is a space it is a mark, so only `plus` holds one that would be turned.
  rw [read, List.map_append]
  cases h with
  | raw hraw =>
    have hplain : (encodeChar character).map dialect.plain = encodeChar character :=
      map_plain_of_ne fun byte hbyte hplus hsame ↦
        not_mem_encodeChar (by decide) (dialect.plus_mem hplus) hraw (hsame ▸ hbyte)
    have hsign : Percent.sign ∉ encodeChar character :=
      not_mem_encodeChar (by decide) dialect.sign_mem hraw
    rw [hplain, Percent.decode_append_of_not_mem hsign, read]
  | escaped h =>
    have hplain : part.map dialect.plain = part := by
      have hplus : ascii '+' ∉ Percent.escapeBytes := by decide
      exact map_plain_of_ne fun byte hbyte _ hsame ↦
        hplus (hsame ▸ mem_escapeBytes_of_spelled h byte hbyte)
    have hread := h.read Percent.decode ([·])
      fun _ _ rest hescapes ↦ Percent.decode_append_of_escapes hescapes rest
    rw [hplain, hread, List.flatMap_singleton', read]
  | plus hplus hspace =>
    have hplain : dialect.plain (ascii '+') = ascii ' ' := by
      rw [plain, if_pos hplus]
      rfl
    subst hspace
    rw [List.map_singleton, hplain]
    exact Percent.decode_of_ne (by decide) _

theorem isAllowed_of_spells (h : dialect.Spells character part) :
    ∀ byte ∈ part, dialect.isAllowed byte = true := by
  cases h with
  | raw hraw => exact (isRaw_iff.mp hraw).2
  | escaped h =>
    exact fun byte hbyte ↦ dialect.escapeBytes_allowed byte (mem_escapeBytes_of_spelled h byte hbyte)
  | plus hplus hspace =>
    intro byte hbyte
    rw [List.mem_singleton.mp hbyte]
    exact dialect.plus_allowed

/-- A sign that no encoding needs is part of no spelling of another character. -/
theorem not_mem_of_spells {mark : Char} (hascii : mark.toNat < 0x80)
    (hescape : ascii mark ∉ Percent.escapeBytes) (hplus : ascii mark ≠ ascii '+')
    (hmark : mark ∈ dialect.marks ∨ character ≠ mark) (h : dialect.Spells character part) :
    ascii mark ∉ part := by
  cases h with
  | raw hraw =>
    rcases hmark with hmark | hother
    · exact not_mem_encodeChar hascii hmark hraw
    · exact fun hmem ↦ hother (Text.Utf8.eq_of_ascii_mem_encodeChar hascii hmem)
  | escaped h => exact fun hmem ↦ hescape (mem_escapeBytes_of_spelled h _ hmem)
  | plus _ _ => exact fun hmem ↦ hplus (List.mem_singleton.mp hmem)

end Characters

/-! ### Texts -/

section Texts

variable {text : String} {bytes : Bytes} (h : dialect.SpellsText text bytes)
include h

/-- Every spelling of a text is read as the bytes of this text. -/
theorem read_of_spellsText : dialect.read bytes = encode text := by
  have hread := Spelled.read dialect.read encodeChar
    (fun _ _ rest hspells ↦ read_append hspells rest) h []
  rw [List.append_nil] at hread
  rw [hread]
  exact List.append_nil _

theorem isAllowed_of_spellsText : ∀ byte ∈ bytes, dialect.isAllowed byte = true :=
  Spelled.forall_mem (dialect.isAllowed · = true)
    (fun _ _ _ hspells ↦ isAllowed_of_spells hspells) h

theorem not_mem_of_spellsText {mark : Char} (hascii : mark.toNat < 0x80)
    (hescape : ascii mark ∉ Percent.escapeBytes) (hplus : ascii mark ≠ ascii '+')
    (hmark : mark ∈ dialect.marks ∨ mark ∉ text.toList) : ascii mark ∉ bytes := by
  have hother : ∀ byte ∈ bytes, byte ≠ ascii mark := by
    refine Spelled.forall_mem (· ≠ ascii mark) ?_ h
    intro character hcharacter part hspells byte hbyte hsame
    refine not_mem_of_spells hascii hescape hplus ?_ hspells (hsame ▸ hbyte)
    exact hmark.imp_right fun hnone hcontra ↦ hnone (hcontra ▸ hcharacter)
  exact fun hmem ↦ hother _ hmem rfl

end Texts

end Dialect

end TokenService.Http
