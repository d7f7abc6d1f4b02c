import TokenService.Json.Printer
import TokenService.Proofs.Json.Reading
import TokenService.Proofs.Json.Walk
import TokenService.Proofs.Text.Utf8

/-!
# Strings and lists of strings in JSON texts read back

Each character is written in a way that a reader takes for this one character: the quote and the
backslash are escaped, so no string ends early, and control characters are escaped, so none is
refused (`readContent_escape`). Strings and lists of strings follow (`readText_renderText`,
`readTextList_renderTexts`).
-/

set_option autoImplicit false
set_option relaxedAutoImplicit false

namespace TokenService.Json

open Text.Utf8

/-! ### The content of a string -/

theorem readContent_quoteMark (rest : Bytes) :
    readContent (quoteMark :: rest) = .ok ([], rest) := by
  rw [readContent, if_pos rfl]

theorem readContent_backslash {bytes part others content left : Bytes}
    (hescape : readEscape bytes = .ok (part, others))
    (hcontent : readContent others = .ok (content, left)) :
    readContent (backslash :: bytes) = .ok (part ++ content, left) := by
  rw [readContent, if_neg (by decide), if_pos rfl]
  split
  · next hfault =>
    rw [hescape] at hfault
    cases hfault
  · next hread =>
    rw [hescape, Except.ok.injEq, Prod.mk.injEq] at hread
    rw [← hread.1, ← hread.2, hcontent]

/-- A byte that stands for itself in a string. -/
def IsPlain (byte : UInt8) : Prop :=
  byte ≠ quoteMark ∧ byte ≠ backslash ∧ 0x20 ≤ byte.toNat

instance decidableIsPlain (byte : UInt8) : Decidable (IsPlain byte) :=
  inferInstanceAs (Decidable (byte ≠ quoteMark ∧ byte ≠ backslash ∧ 0x20 ≤ byte.toNat))

theorem readContent_plain {byte : UInt8} (hplain : IsPlain byte) {bytes content left : Bytes}
    (hcontent : readContent bytes = .ok (content, left)) :
    readContent (byte :: bytes) = .ok (byte :: content, left) := by
  obtain ⟨hquote, hescape, hcontrol⟩ := hplain
  rw [readContent, if_neg hquote, if_neg hescape, if_neg (by omega), hcontent]

theorem readContent_plain_append {plain : Bytes} (hplain : ∀ byte ∈ plain, IsPlain byte)
    {bytes content left : Bytes} (hcontent : readContent bytes = .ok (content, left)) :
    readContent (plain ++ bytes) = .ok (plain ++ content, left) := by
  induction plain with
  | nil => exact hcontent
  | cons byte plain ih =>
    exact readContent_plain (hplain byte List.mem_cons_self)
      (ih fun other hother ↦ hplain other (List.mem_cons_of_mem _ hother))

/-! ### Written characters -/

theorem hexValue?_digit : ∀ value < 16,
    Text.Hex.value? (UInt8.ofNat (Text.Hex.digit value).toNat).toNat = some value := by
  decide

theorem hexDigit_lt : ∀ value < 16, (Text.Hex.digit value).toNat < 0x80 := by
  decide

theorem isPlain_of_mem_encodeChar {character : Char} (hquote : character ≠ '"')
    (hescape : character ≠ '\\') (hcontrol : ¬character.toNat < 0x20) :
    ∀ byte ∈ encodeChar character, IsPlain byte := by
  intro byte hbyte
  by_cases hascii : character.toNat < 0x80
  · rw [encodeChar_of_lt hascii, List.mem_singleton] at hbyte
    have hcode : byte.toNat = character.toNat := by rw [hbyte, ascii, toNat_ofNat_of_lt (by omega)]
    refine ⟨?_, ?_, by omega⟩
    · rintro rfl
      exact hquote (Char.toNat_inj.mp hcode.symm)
    · rintro rfl
      exact hescape (Char.toNat_inj.mp hcode.symm)
  · have hlarge := le_of_mem_encodeChar (by omega) hbyte
    refine ⟨?_, ?_, by omega⟩
    · rintro rfl
      exact absurd hlarge (by decide)
    · rintro rfl
      exact absurd hlarge (by decide)

/-- The escape of a control character by its code is read as this character. -/
theorem readEscape_code {character : Char} (hcontrol : character.toNat < 0x20) (rest : Bytes) :
    readEscape (['u', '0', '0', Text.Hex.digit (character.toNat / 16),
      Text.Hex.digit (character.toNat % 16)].flatMap encodeChar ++ rest) =
      .ok (encodeChar character, rest) := by
  have hhigh := hexDigit_lt (character.toNat / 16) (by omega)
  have hlow := hexDigit_lt (character.toNat % 16) (by omega)
  have hvalues : hexValues? (ascii '0') (ascii '0')
      (ascii (Text.Hex.digit (character.toNat / 16)))
      (ascii (Text.Hex.digit (character.toNat % 16))) = some character.toNat := by
    have hzero : Text.Hex.value? (ascii '0').toNat = some 0 := rfl
    have hjoin : ((0 * 16 + 0) * 16 + character.toNat / 16) * 16 + character.toNat % 16 =
        character.toNat := by omega
    simp only [hexValues?, hzero, hexValue?_digit (character.toNat / 16) (by omega),
      hexValue?_digit (character.toNat % 16) (by omega), Option.bind_eq_bind, Option.bind_some,
      hjoin]
  have hlowUnit : isLowSurrogate character.toNat = false := by
    have hsmall : ¬0xDC00 ≤ character.toNat := by omega
    simp [isLowSurrogate, hsmall]
  have hhighUnit : isHighSurrogate character.toNat = false := by
    have hsmall : ¬0xD800 ≤ character.toNat := by omega
    simp [isHighSurrogate, hsmall]
  have hunits : readCodeUnits (ascii '0' :: ascii '0' ::
      ascii (Text.Hex.digit (character.toNat / 16)) ::
      ascii (Text.Hex.digit (character.toNat % 16)) :: rest) =
      .ok (encodeChar character, rest) := by
    rw [readCodeUnits, readHex, hvalues]
    dsimp only
    rw [hlowUnit, hhighUnit, Char.ofNat_toNat]
    rfl
  simp only [List.flatMap_cons, List.flatMap_nil, encodeChar_of_lt hhigh, encodeChar_of_lt hlow]
  exact hunits

/-- A written character in a string is read as the bytes of this character. -/
theorem readContent_escape (character : Char) {bytes content left : Bytes}
    (hcontent : readContent bytes = .ok (content, left)) :
    readContent ((escape character).flatMap encodeChar ++ bytes) =
      .ok (encodeChar character ++ content, left) := by
  by_cases hquote : character = '"'
  · subst hquote
    exact readContent_backslash rfl hcontent
  by_cases hescape : character = '\\'
  · subst hescape
    exact readContent_backslash rfl hcontent
  by_cases hbackspace : character = '\x08'
  · subst hbackspace
    exact readContent_backslash rfl hcontent
  by_cases hfeed : character = '\x0c'
  · subst hfeed
    exact readContent_backslash rfl hcontent
  by_cases hline : character = '\n'
  · subst hline
    exact readContent_backslash rfl hcontent
  by_cases hreturn : character = '\r'
  · subst hreturn
    exact readContent_backslash rfl hcontent
  by_cases htab : character = '\t'
  · subst htab
    exact readContent_backslash rfl hcontent
  rw [escape, if_neg hquote, if_neg hescape, if_neg hbackspace, if_neg hfeed, if_neg hline,
    if_neg hreturn, if_neg htab]
  by_cases hcontrol : character.toNat < 0x20
  · rw [if_pos hcontrol, List.flatMap_cons]
    exact readContent_backslash (readEscape_code hcontrol bytes) hcontent
  · rw [if_neg hcontrol, List.flatMap_singleton]
    exact readContent_plain_append (isPlain_of_mem_encodeChar hquote hescape hcontrol) hcontent

/-- The written form of a string is read as the string. -/
theorem readString_escape (text : String) (rest : Bytes) :
    readString ((text.toList.flatMap escape).flatMap encodeChar ++ quoteMark :: rest) =
      .ok (text, rest) := by
  have hcontent : ∀ characters : List Char,
      readContent ((characters.flatMap escape).flatMap encodeChar ++ quoteMark :: rest) =
        .ok (characters.flatMap encodeChar, rest) := by
    intro characters
    induction characters with
    | nil => exact readContent_quoteMark rest
    | cons character characters ih =>
      rw [List.flatMap_cons, List.flatMap_append, List.append_assoc, List.flatMap_cons]
      exact readContent_escape character ih
  rw [readString, hcontent]
  dsimp only
  rw [← encode, decode?_encode]

/-- An unescaped ASCII byte of a string is its next character. -/
theorem readString_cons {byte : UInt8} (hplain : IsPlain byte) (hascii : byte.toNat < 0x80)
    {bytes rest : Bytes} {text : String} (h : readString (byte :: bytes) = .ok (text, rest)) :
    ∃ others, readString bytes = .ok (others, rest) ∧
      text.toList = Char.ofNat byte.toNat :: others.toList := by
  obtain ⟨hquote, hescape, hcontrol⟩ := hplain
  unfold readString at h ⊢
  rw [readContent, if_neg hquote, if_neg hescape, if_neg (by omega)] at h
  cases hcontent : readContent bytes with
  | error fault =>
    rw [hcontent] at h
    cases h
  | ok read =>
    rw [hcontent] at h
    dsimp only at h ⊢
    rw [decode?, decodeChars?_cons hascii] at h
    rw [decode?]
    cases hcharacters : decodeChars? read.1 with
    | none =>
      rw [hcharacters] at h
      cases h
    | some characters =>
      rw [hcharacters] at h
      simp only [Option.map_some, Except.ok.injEq, Prod.mk.injEq] at h
      refine ⟨String.ofList characters, by rw [← h.2]; rfl, ?_⟩
      rw [← h.1, String.toList_ofList, String.toList_ofList]

theorem renderText_append (text : String) (rest : Bytes) :
    (renderText text).flatMap encodeChar ++ rest =
      quoteMark :: ((text.toList.flatMap escape).flatMap encodeChar ++ quoteMark :: rest) := by
  rw [renderText, List.cons_append, List.flatMap_cons, List.flatMap_append, List.append_assoc,
    List.append_assoc]
  rfl

theorem readText_renderText (text : String) (rest : Bytes) :
    readText ((renderText text).flatMap encodeChar ++ rest) = .ok (text, rest) := by
  rw [renderText_append, readText, skipBlanks_cons (by decide)]
  dsimp only
  rw [if_pos rfl, readString_escape]

/-! ### Keys -/

theorem nextMember_renderText (name : String) (rest : Bytes) :
    nextMember true ((renderText name).flatMap encodeChar ++ rest) = .ok (.key name rest) := by
  rw [renderText_append]
  exact nextMember_first_iff.mpr ⟨_, rfl, readString_escape name rest⟩

theorem nextMember_comma_renderText (name : String) (rest : Bytes) :
    nextMember false (ascii ',' :: ((renderText name).flatMap encodeChar ++ rest)) =
      .ok (.key name rest) := by
  rw [renderText_append]
  exact nextMember_later_iff.mpr ⟨_, _, rfl, rfl, readString_escape name rest⟩

/-! ### Lists of strings -/

theorem separated_cons (element : List Char) (elements : List (List Char)) :
    separated (element :: elements) = element ++ elements.flatMap (',' :: ·) := by
  induction elements generalizing element with
  | nil => rw [separated, List.flatMap_nil, List.append_nil]
  | cons other elements ih =>
    rw [separated, ih, List.flatMap_cons, List.cons_append]
    exact fun hnone ↦ by cases hnone

section Elements

variable {α : Type} {element : Consumer α} {first : Bool} {bytes rest : Bytes}

theorem readEach_of_last (hnext : nextElement first bytes = .ok (.last rest)) :
    readEach element first bytes = .ok ([], rest) := by
  rw [readEach]
  split
  · next hfault =>
    rw [hnext] at hfault
    cases hfault
  · next hlast =>
    rw [hnext, Except.ok.injEq, Element.last.injEq] at hlast
    rw [hlast]
  · next hmore =>
    rw [hnext] at hmore
    cases hmore

theorem readEach_of_more {more left : Bytes} {value : α} {values : List α}
    (hnext : nextElement first bytes = .ok (.more more))
    (hvalue : element.read more = .ok (value, rest))
    (hvalues : readEach element false rest = .ok (values, left)) :
    readEach element first bytes = .ok (value :: values, left) := by
  rw [readEach]
  split
  · next hfault =>
    rw [hnext] at hfault
    cases hfault
  · next hlast =>
    rw [hnext] at hlast
    cases hlast
  · next hmore =>
    rw [hnext, Except.ok.injEq, Element.more.injEq] at hmore
    split
    · next hfault =>
      rw [← hmore, hvalue] at hfault
      cases hfault
    · next hread =>
      rw [← hmore, hvalue, Except.ok.injEq, Prod.mk.injEq] at hread
      rw [← hread.1, ← hread.2, hvalues]

end Elements

theorem readEach_texts (texts : List String) (rest : Bytes) :
    readEach ⟨readText, readText_consumes⟩ false (((texts.map renderText).flatMap (',' :: ·)).flatMap encodeChar ++
      ascii ']' :: rest) = .ok (texts, rest) := by
  induction texts with
  | nil => exact readEach_of_last rfl
  | cons text texts ih =>
    rw [List.map_cons, List.flatMap_cons, List.flatMap_append, List.append_assoc,
      List.flatMap_cons, List.append_assoc]
    exact readEach_of_more rfl (readText_renderText text _) ih

/-- The written form of a list of strings is read as the list. -/
theorem readTextList_renderTexts (texts : List String) (rest : Bytes) :
    readTextList ((renderTexts texts).flatMap encodeChar ++ rest) = .ok (texts, rest) := by
  have hopen : readTextList ((renderTexts texts).flatMap encodeChar ++ rest) =
      readEach ⟨readText, readText_consumes⟩ true
        ((separated (texts.map renderText)).flatMap encodeChar ++ ascii ']' :: rest) := by
    rw [renderTexts, List.cons_append, List.flatMap_cons, List.flatMap_append, List.append_assoc,
      List.append_assoc]
    rfl
  rw [hopen]
  cases texts with
  | nil => exact readEach_of_last rfl
  | cons text texts =>
    rw [List.map_cons, separated_cons, List.flatMap_append, List.append_assoc]
    exact readEach_of_more rfl (readText_renderText text _) (readEach_texts texts rest)

end TokenService.Json
