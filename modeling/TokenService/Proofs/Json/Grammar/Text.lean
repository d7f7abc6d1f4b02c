import TokenService.Proofs.Json.Grammar
import TokenService.Proofs.Json.Skip

/-!
# Strings of the grammar are those that are read

A kept string is read exactly if it spells the text (`readText_iff`). One character is spelled at a
time: an escape means a whole character (`exists_of_readEscape`), so the bytes that continue one
stand for themselves, and a character that begins with such a byte is spelled by its own bytes
(`exists_of_readContent`). A string that nobody wants is passed over exactly if it is made of pieces
(`skipString_iff`).
-/

set_option autoImplicit false
set_option relaxedAutoImplicit false

namespace TokenService.Json

open Text.Utf8

variable {bytes rest part content : Bytes} {character : Char} {text : String} {value : Nat}

/-! ### Escapes -/

theorem lt_of_isHexDigit {byte : UInt8} (h : IsHexDigit value byte) : value < 16 := by
  unfold IsHexDigit Text.Hex.value? at h
  grind

theorem SpellsUnit.lt {digits : Bytes} (h : SpellsUnit value digits) : value < 0x10000 := by
  cases h with
  | digits hfirst hsecond hthird hfourth =>
    have := lt_of_isHexDigit hfirst
    have := lt_of_isHexDigit hsecond
    have := lt_of_isHexDigit hthird
    have := lt_of_isHexDigit hfourth
    omega

theorem readHex_iff : readHex bytes = .ok (value, rest) ↔
    ∃ digits, SpellsUnit value digits ∧ bytes = digits ++ rest := by
  constructor
  · intro h
    unfold readHex at h
    split at h
    · next one two three four others =>
      split at h
      · next value' hvalue =>
        simp only [Except.ok.injEq, Prod.mk.injEq] at h
        obtain ⟨rfl, rfl⟩ := h
        simp only [hexValues?, Option.bind_eq_bind, Option.bind_eq_some_iff, Option.some.injEq]
          at hvalue
        obtain ⟨first, hfirst, second, hsecond, third, hthird, fourth, hfourth, rfl⟩ := hvalue
        exact ⟨[one, two, three, four], .digits hfirst hsecond hthird hfourth, rfl⟩
      · cases h
    · cases h
  · rintro ⟨digits, hdigits, rfl⟩
    cases hdigits with
    | digits hfirst hsecond hthird hfourth =>
      unfold IsHexDigit at hfirst hsecond hthird hfourth
      simp [readHex, hexValues?, hfirst, hsecond, hthird, hfourth]

/-- A letter of an escape, by the byte of the character that it means. -/
theorem plainEscape?_iff {letter byte : UInt8} : plainEscape? letter = some byte ↔
    ∃ mark meant, (mark, meant) ∈ escapeLetters ∧ letter = ascii mark ∧
      encodeChar meant = [byte] := by
  constructor
  · intro h
    unfold plainEscape? at h
    split_ifs at h with hletter hletter hletter hletter hletter hletter hletter hletter
    all_goals
      rw [Option.some.injEq] at h
      subst h hletter
    · exact ⟨'"', '"', by decide, rfl, rfl⟩
    · exact ⟨'\\', '\\', by decide, rfl, rfl⟩
    · exact ⟨'/', '/', by decide, rfl, rfl⟩
    · exact ⟨'b', '\x08', by decide, rfl, rfl⟩
    · exact ⟨'f', '\x0c', by decide, rfl, rfl⟩
    · exact ⟨'n', '\n', by decide, rfl, rfl⟩
    · exact ⟨'r', '\r', by decide, rfl, rfl⟩
    · exact ⟨'t', '\t', by decide, rfl, rfl⟩
  · rintro ⟨mark, meant, hmark, rfl, hbyte⟩
    have hall : ∀ pair ∈ escapeLetters,
        (plainEscape? (ascii pair.1)).toList = encodeChar pair.2 := by decide
    have hpair := hall _ hmark
    rw [hbyte] at hpair
    exact Option.toList_eq_singleton_iff.mp hpair

theorem readLowSurrogate_iff {high : Nat} : readLowSurrogate high bytes = .ok (part, rest) ↔
    ∃ low second, low < 0x400 ∧ SpellsUnit (0xDC00 + low) second ∧
      bytes = backslash :: ascii 'u' :: (second ++ rest) ∧
        part = encodeChar (pairedChar high (0xDC00 + low)) := by
  constructor
  · intro h
    unfold readLowSurrogate at h
    split at h
    · cases h
    · split at h <;> cases h
    · next byte letter others =>
      split_ifs at h with hbyte hletter
      rw [Decidable.not_not] at hbyte hletter
      subst hbyte hletter
      split at h
      · cases h
      · next low left hhex =>
        obtain ⟨second, hsecond, rfl⟩ := readHex_iff.mp hhex
        split_ifs at h with hlow
        simp only [isLowSurrogate, Bool.and_eq_true, decide_eq_true_eq] at hlow
        simp only [Except.ok.injEq, Prod.mk.injEq] at h
        obtain ⟨rfl, rfl⟩ := h
        obtain ⟨offset, rfl⟩ := Nat.exists_eq_add_of_le hlow.1
        exact ⟨offset, second, by omega, hsecond, rfl, rfl⟩
  · rintro ⟨low, second, hlow, hsecond, rfl, hpart⟩
    have hhex : readHex (second ++ rest) = .ok (0xDC00 + low, rest) :=
      readHex_iff.mpr ⟨second, hsecond, rfl⟩
    have hrange : isLowSurrogate (0xDC00 + low) = true := by
      rw [isLowSurrogate, Bool.and_eq_true, decide_eq_true_eq, decide_eq_true_eq]
      omega
    rw [readLowSurrogate, if_neg (not_not.mpr rfl), if_neg (not_not.mpr rfl), hhex]
    dsimp only
    rw [if_pos hrange, hpart]

theorem readCodeUnits_unit {digits : Bytes} (hdigits : SpellsUnit character.toNat digits)
    (rest : Bytes) : readCodeUnits (digits ++ rest) = .ok (encodeChar character, rest) := by
  have hvalid := toNat_lt_or character
  have hlow : isLowSurrogate character.toNat = false := by
    simp [isLowSurrogate]
    omega
  have hhigh : isHighSurrogate character.toNat = false := by
    simp [isHighSurrogate]
    omega
  rw [readCodeUnits, readHex_iff.mpr ⟨digits, hdigits, rfl⟩]
  dsimp only
  rw [hlow, hhigh, Char.ofNat_toNat]
  rfl

theorem readCodeUnits_pair {high low : Nat} {first second : Bytes} (hhigh : high < 0x400)
    (hlow : low < 0x400) (hfirst : SpellsUnit (0xD800 + high) first)
    (hsecond : SpellsUnit (0xDC00 + low) second)
    (hcharacter : character.toNat = high * 0x400 + low + 0x10000) (rest : Bytes) :
    readCodeUnits (first ++ backslash :: ascii 'u' :: (second ++ rest)) =
      .ok (encodeChar character, rest) := by
  have hlowUnit : isLowSurrogate (0xD800 + high) = false := by
    simp [isLowSurrogate]
    omega
  have hhighUnit : isHighSurrogate (0xD800 + high) = true := by
    simp [isHighSurrogate]
    omega
  have hpaired : pairedChar (0xD800 + high) (0xDC00 + low) = character := by
    rw [pairedChar, Nat.add_sub_cancel_left, Nat.add_sub_cancel_left, ← hcharacter,
      Char.ofNat_toNat]
  rw [readCodeUnits, readHex_iff.mpr ⟨first, hfirst, rfl⟩]
  dsimp only
  rw [hlowUnit, hhighUnit]
  exact readLowSurrogate_iff.mpr ⟨low, second, hlow, hsecond, rfl, by rw [hpaired]⟩

theorem exists_of_readCodeUnits (h : readCodeUnits bytes = .ok (part, rest)) :
    ∃ character token, SpellsChar character (backslash :: ascii 'u' :: token) ∧
      part = encodeChar character ∧ bytes = token ++ rest := by
  unfold readCodeUnits at h
  split at h
  · cases h
  · next value left hhex =>
    obtain ⟨digits, hdigits, rfl⟩ := readHex_iff.mp hhex
    split_ifs at h with hlow hhigh
    · obtain ⟨low, second, hoffset, hsecond, rfl, hpart⟩ := readLowSurrogate_iff.mp h
      simp only [isHighSurrogate, Bool.and_eq_true, decide_eq_true_eq] at hhigh
      obtain ⟨high, rfl⟩ := Nat.exists_eq_add_of_le hhigh.1
      refine ⟨_, _, .pair (by omega) hoffset hdigits hsecond ?_, hpart, ?_⟩
      · rw [pairedChar, toNat_ofNat_of_valid (by omega)]
        omega
      · simp
    · have hvalid := hdigits.lt
      simp only [isLowSurrogate, isHighSurrogate, Bool.and_eq_true, decide_eq_true_eq]
        at hlow hhigh
      simp only [Except.ok.injEq, Prod.mk.injEq] at h
      obtain ⟨rfl, rfl⟩ := h
      have hcode : (Char.ofNat value).toNat = value := toNat_ofNat_of_valid (by omega)
      exact ⟨Char.ofNat value, digits, .unit (hcode.symm ▸ hdigits), rfl, rfl⟩

theorem exists_of_readEscape (h : readEscape bytes = .ok (part, rest)) :
    ∃ character token, SpellsChar character (backslash :: token) ∧
      part = encodeChar character ∧ bytes = token ++ rest := by
  unfold readEscape at h
  split at h
  · cases h
  · next letter others =>
    split at h
    · next byte hplain =>
      obtain ⟨mark, meant, hmark, rfl, hbyte⟩ := plainEscape?_iff.mp hplain
      simp only [Except.ok.injEq, Prod.mk.injEq] at h
      obtain ⟨rfl, rfl⟩ := h
      exact ⟨meant, [ascii mark], .letter hmark, hbyte.symm, rfl⟩
    · split_ifs at h with hunit
      obtain ⟨character, token, hcharacter, hpart, rfl⟩ := exists_of_readCodeUnits h
      exact ⟨character, ascii 'u' :: token, hcharacter, hpart, by rw [hunit]; rfl⟩

/-! ### Characters -/

/-- A spelling of a character in a string is read as this character, whatever comes behind it. -/
theorem readContent_append (hpart : SpellsChar character part)
    (hcontent : readContent bytes = .ok (content, rest)) :
    readContent (part ++ bytes) = .ok (encodeChar character ++ content, rest) := by
  cases hpart with
  | plain hquote hescape hcontrol =>
    exact readContent_plain_append (isPlain_of_mem_encodeChar hquote hescape (by omega)) hcontent
  | @letter mark _ hletter =>
    obtain ⟨byte, hbyte⟩ : ∃ byte, encodeChar character = [byte] := by
      have hall : ∀ pair ∈ escapeLetters, pair.2.toNat < 0x80 := by decide
      exact ⟨_, encodeChar_of_lt (hall _ hletter)⟩
    refine readContent_backslash ?_ hcontent
    show readEscape (ascii mark :: bytes) = _
    rw [readEscape, plainEscape?_iff.mpr ⟨_, _, hletter, rfl, hbyte⟩, hbyte]
  | unit hdigits =>
    refine readContent_backslash ?_ hcontent
    exact readCodeUnits_unit hdigits bytes
  | @pair _ high low first second hhigh hlow hfirst hsecond hcharacter =>
    refine readContent_backslash ?_ hcontent
    show readCodeUnits ((first ++ backslash :: ascii 'u' :: second) ++ bytes) = _
    rw [List.append_assoc]
    exact readCodeUnits_pair hhigh hlow hfirst hsecond hcharacter bytes

/-- A string that is kept ends, goes on with an escape, or with a byte for itself. -/
theorem readContent_cases (h : readContent bytes = .ok (content, rest)) :
    (bytes = quoteMark :: rest ∧ content = []) ∨
      (∃ others part left more, bytes = backslash :: others ∧
        readEscape others = .ok (part, left) ∧ readContent left = .ok (more, rest) ∧
          content = part ++ more) ∨
      (∃ byte others more, bytes = byte :: others ∧ IsPlain byte ∧
        readContent others = .ok (more, rest) ∧ content = byte :: more) := by
  cases bytes with
  | nil =>
    rw [readContent] at h
    cases h
  | cons byte others =>
    rw [readContent] at h
    by_cases hquote : byte = quoteMark
    · rw [if_pos hquote, Except.ok.injEq, Prod.mk.injEq] at h
      exact Or.inl ⟨by rw [hquote, h.2], h.1.symm⟩
    rw [if_neg hquote] at h
    by_cases hescape : byte = backslash
    · rw [if_pos hescape] at h
      split at h
      · cases h
      next part left hread =>
      split at h
      · cases h
      next more left' hmore =>
      rw [Except.ok.injEq, Prod.mk.injEq] at h
      exact Or.inr (Or.inl ⟨others, part, left, more, by rw [hescape], hread, h.2 ▸ hmore,
        h.1.symm⟩)
    rw [if_neg hescape] at h
    by_cases hcontrol : byte.toNat < 0x20
    · rw [if_pos hcontrol] at h
      cases h
    rw [if_neg hcontrol] at h
    split at h
    · cases h
    next more left hmore =>
    rw [Except.ok.injEq, Prod.mk.injEq] at h
    exact Or.inr (Or.inr ⟨byte, others, more, rfl, ⟨hquote, hescape, by omega⟩, h.2 ▸ hmore,
      h.1.symm⟩)

/-- An escape means a whole character, so bytes that continue one stand for themselves. -/
theorem exists_of_readContent_tails {tails : Bytes} (htails : ∀ tail ∈ tails, isTail tail = true)
    (h : readContent bytes = .ok (tails ++ content, rest)) :
    ∃ others, bytes = tails ++ others ∧ readContent others = .ok (content, rest) := by
  induction tails generalizing bytes with
  | nil => exact ⟨bytes, rfl, h⟩
  | cons tail tails ih =>
    have htail := htails tail List.mem_cons_self
    rcases readContent_cases h with ⟨-, hnone⟩ | ⟨others, part, left, more, -, hescape, -, hmore⟩ |
      ⟨byte, others, more, rfl, -, hothers, hmore⟩
    · cases hnone
    · obtain ⟨character, -, -, rfl, -⟩ := exists_of_readEscape hescape
      obtain ⟨lead, following, hcharacter, hlead, -⟩ := isTail_of_encodeChar character
      rw [hcharacter, List.cons_append, List.cons_append, List.cons.injEq] at hmore
      rw [← hmore.1, htail] at hlead
      cases hlead
    · rw [List.cons_append, List.cons.injEq] at hmore
      obtain ⟨behind, rfl, hbehind⟩ := ih (fun other hother ↦ htails other (.tail _ hother))
        (hmore.2 ▸ hothers)
      exact ⟨behind, by rw [hmore.1, List.cons_append], hbehind⟩

theorem spellsChar_of_isPlain {byte : UInt8} (hplain : IsPlain byte)
    (hbyte : byte ∈ encodeChar character) : SpellsChar character (encodeChar character) := by
  obtain ⟨hquote, hescape, hcontrol⟩ := hplain
  apply SpellsChar.plain
  · rintro rfl
    exact hquote (List.mem_singleton.mp hbyte)
  · rintro rfl
    exact hescape (List.mem_singleton.mp hbyte)
  · by_contra hsmall
    rw [encodeChar_of_lt (by omega), List.mem_singleton] at hbyte
    rw [hbyte, ascii, toNat_ofNat_of_lt (by omega)] at hcontrol
    exact hsmall hcontrol

/-- A character that is read from a string is spelled at its front. -/
theorem exists_of_readContent
    (h : readContent bytes = .ok (encodeChar character ++ content, rest)) :
    ∃ part others, SpellsChar character part ∧ bytes = part ++ others ∧
      readContent others = .ok (content, rest) := by
  obtain ⟨lead, tails, hcharacter, -, htails⟩ := isTail_of_encodeChar character
  rcases readContent_cases h with ⟨-, hnone⟩ |
    ⟨others, part, left, more, rfl, hescape, hothers, hmore⟩ |
    ⟨byte, others, more, rfl, hplain, hothers, hmore⟩
  · rw [hcharacter] at hnone
    cases hnone
  · obtain ⟨other, token, hpart, rfl, rfl⟩ := exists_of_readEscape hescape
    obtain ⟨rfl, rfl⟩ := encodeChar_append_inj hmore
    exact ⟨backslash :: token, left, hpart, rfl, hothers⟩
  · rw [hcharacter, List.cons_append, List.cons.injEq] at hmore
    obtain ⟨behind, rfl, hbehind⟩ := exists_of_readContent_tails htails (hmore.2 ▸ hothers)
    refine ⟨encodeChar character, behind, spellsChar_of_isPlain hplain ?_, ?_, hbehind⟩
    · simp [hcharacter, hmore.1]
    · rw [hcharacter, hmore.1, List.cons_append]

/-! ### Kept strings -/

theorem readContent_iff {characters : List Char} :
    readContent bytes = .ok (characters.flatMap encodeChar, rest) ↔
      ∃ parts, List.Forall₂ SpellsChar characters parts ∧
        bytes = parts.flatten ++ quoteMark :: rest := by
  constructor
  · intro h
    induction characters generalizing bytes with
    | nil =>
      rcases readContent_cases h with ⟨hend, -⟩ |
        ⟨others, part, left, more, -, hescape, -, hmore⟩ | ⟨byte, others, more, -, -, -, hmore⟩
      · exact ⟨[], .nil, hend⟩
      · obtain ⟨character, -, -, rfl, -⟩ := exists_of_readEscape hescape
        obtain ⟨lead, tails, hcharacter, -⟩ := isTail_of_encodeChar character
        rw [hcharacter] at hmore
        cases hmore
      · cases hmore
    | cons character characters ih =>
      rw [List.flatMap_cons] at h
      obtain ⟨part, others, hpart, rfl, hothers⟩ := exists_of_readContent h
      obtain ⟨parts, hparts, rfl⟩ := ih hothers
      exact ⟨part :: parts, .cons hpart hparts, by rw [List.flatten_cons, List.append_assoc]⟩
  · rintro ⟨parts, hparts, rfl⟩
    induction hparts with
    | nil => exact readContent_quoteMark rest
    | cons hpart _ ih =>
      rw [List.flatten_cons, List.append_assoc, List.flatMap_cons]
      exact readContent_append hpart ih

theorem readString_iff : readString bytes = .ok (text, rest) ↔
    ∃ parts, List.Forall₂ SpellsChar text.toList parts ∧
      bytes = parts.flatten ++ quoteMark :: rest := by
  rw [← readContent_iff, ← encode]
  constructor
  · intro h
    unfold readString at h
    split at h
    · cases h
    · next hcontent =>
      split at h
      · next htext =>
        rw [Except.ok.injEq, Prod.mk.injEq] at h
        rw [hcontent, ← decode?_eq_some_iff.mp htext, h.1, h.2]
      · cases h
  · intro h
    rw [readString, h]
    dsimp only
    rw [decode?_encode]

theorem SpellsText.cons_append {token : Bytes} (h : SpellsText text token) (rest : Bytes) :
    ∃ inner, token ++ rest = quoteMark :: inner ∧ readString inner = .ok (text, rest) := by
  obtain ⟨parts, hparts, rfl⟩ := h
  refine ⟨parts.flatten ++ quoteMark :: rest, ?_, readString_iff.mpr ⟨parts, hparts, rfl⟩⟩
  simp

theorem exists_of_readString (h : readString bytes = .ok (text, rest)) :
    ∃ token, SpellsText text token ∧ quoteMark :: bytes = token ++ rest := by
  obtain ⟨parts, hparts, rfl⟩ := readString_iff.mp h
  exact ⟨_, ⟨parts, hparts, rfl⟩, by simp⟩

/-- A string is read exactly if it spells the text. -/
theorem readText_iff : readText bytes = .ok (text, rest) ↔
    ∃ blanks token, Blanks blanks ∧ SpellsText text token ∧ bytes = blanks ++ (token ++ rest) := by
  constructor
  · intro h
    unfold readText at h
    split at h
    · cases h
    next byte others hstart =>
    split at h
    · next hquote =>
      obtain ⟨-, blanks, hblanks, rfl⟩ := skipBlanks_eq_cons_iff.mp hstart
      obtain ⟨token, htoken, hothers⟩ := exists_of_readString h
      exact ⟨blanks, token, hblanks, htoken, by rw [hquote, hothers]⟩
    · cases h
  · rintro ⟨blanks, token, hblanks, htoken, rfl⟩
    obtain ⟨inner, htext, hinner⟩ := htoken.cons_append rest
    rw [htext, readText, skipBlanks_append hblanks, skipBlanks_cons (by decide)]
    dsimp only
    rw [if_pos rfl, hinner]

/-! ### Skipped strings -/

theorem skipEscape_iff : skipEscape bytes = .ok ((), rest) ↔
    ∃ token, IsPiece (backslash :: token) ∧ bytes = token ++ rest := by
  constructor
  · intro h
    unfold skipEscape at h
    split at h
    · cases h
    next letter others =>
    split at h
    · next hsome =>
      obtain ⟨byte, hbyte⟩ := Option.isSome_iff_exists.mp hsome
      obtain ⟨mark, meant, hmark, rfl, -⟩ := plainEscape?_iff.mp hbyte
      rw [Except.ok.injEq, Prod.mk.injEq] at h
      exact ⟨[ascii mark], .letter hmark, by rw [h.2]; rfl⟩
    split at h
    · next hunit =>
      split at h
      · cases h
      next value left hhex =>
      rw [Except.ok.injEq, Prod.mk.injEq] at h
      obtain ⟨digits, hdigits, rfl⟩ := readHex_iff.mp hhex
      exact ⟨ascii 'u' :: digits, .unit hdigits, by rw [hunit, h.2]; rfl⟩
    · cases h
  · rintro ⟨token, htoken, rfl⟩
    cases htoken with
    | plain hplain => exact absurd rfl hplain.2.1
    | @letter mark character hletter =>
      have hall : ∀ pair ∈ escapeLetters, (plainEscape? (ascii pair.1)).isSome = true := by decide
      show skipEscape (ascii mark :: rest) = _
      rw [skipEscape, if_pos (hall _ hletter)]
    | unit hdigits => exact skipEscape_code (readHex_iff.mpr ⟨_, hdigits, rfl⟩)

theorem skipString_append (hpart : IsPiece part) (bytes : Bytes) :
    skipString (part ++ bytes) = skipString bytes := by
  cases hpart with
  | plain hplain => exact skipString_plain hplain bytes
  | letter hletter => exact skipString_backslash (skipEscape_iff.mpr ⟨_, .letter hletter, rfl⟩)
  | unit hdigits => exact skipString_backslash (skipEscape_iff.mpr ⟨_, .unit hdigits, rfl⟩)

/-- A string is passed over exactly if it is made of pieces. -/
theorem skipString_iff : skipString bytes = .ok ((), rest) ↔
    ∃ parts : List Bytes, (∀ part ∈ parts, IsPiece part) ∧
      bytes = parts.flatten ++ quoteMark :: rest := by
  constructor
  · intro h
    fun_induction skipString bytes with
    | case2 others =>
      rw [Except.ok.injEq, Prod.mk.injEq] at h
      exact ⟨[], List.forall_mem_nil _, by rw [h.2]; rfl⟩
    | case4 others _ left hescape _ ih =>
      obtain ⟨token, htoken, rfl⟩ := skipEscape_iff.mp hescape
      obtain ⟨parts, hparts, rfl⟩ := ih h
      exact ⟨(backslash :: token) :: parts, List.forall_mem_cons.mpr ⟨htoken, hparts⟩, by simp⟩
    | case6 byte others hquote hescape hcontrol ih =>
      obtain ⟨parts, hparts, rfl⟩ := ih h
      exact ⟨[byte] :: parts,
        List.forall_mem_cons.mpr ⟨.plain ⟨hquote, hescape, by omega⟩, hparts⟩, by simp⟩
    | _ => cases h
  · rintro ⟨parts, hparts, rfl⟩
    induction parts with
    | nil =>
      show skipString (quoteMark :: rest) = _
      rw [skipString, if_pos rfl]
    | cons part parts ih =>
      obtain ⟨hpart, hparts⟩ := List.forall_mem_cons.mp hparts
      rw [List.flatten_cons, List.append_assoc, skipString_append hpart, ih hparts]

theorem IsString.cons_append {token : Bytes} (h : IsString token) (rest : Bytes) :
    ∃ inner, token ++ rest = quoteMark :: inner ∧ skipString inner = .ok ((), rest) := by
  obtain ⟨parts, hparts, rfl⟩ := h
  refine ⟨parts.flatten ++ quoteMark :: rest, ?_, skipString_iff.mpr ⟨parts, hparts, rfl⟩⟩
  simp

theorem exists_of_skipString (h : skipString bytes = .ok ((), rest)) :
    ∃ token, IsString token ∧ quoteMark :: bytes = token ++ rest := by
  obtain ⟨parts, hparts, rfl⟩ := skipString_iff.mp h
  exact ⟨_, ⟨parts, hparts, rfl⟩, by simp⟩

end TokenService.Json
