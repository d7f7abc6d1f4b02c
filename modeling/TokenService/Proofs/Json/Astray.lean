import TokenService.Proofs.Json.Passes

/-!
# Readers inside strings

A lenient reader may leave a string halfway, and what reads on takes the content of the string for
JSON. The bytes of a well-formed text are tokens one after another (`Lexes`), and where strings end
and begin is all that such a reader can get wrong: it takes the ends of strings for their
beginnings. So whatever it accepts from within a string (`Inside`) leaves it within a string again
(`Inside.skipScalar`, `Inside.passes`), and between the two there is nothing that could be the key
of a member (`startsWord_of_readString`).
-/

set_option autoImplicit false
set_option relaxedAutoImplicit false

namespace TokenService.Json

/-! ### Plain parts of a string -/

theorem isPlain_of_isDigit {byte : UInt8} (hdigit : isDigit byte = true) : IsPlain byte := by
  rw [isDigit, Bool.and_eq_true, decide_eq_true_eq, decide_eq_true_eq] at hdigit
  refine ⟨?_, ?_, by omega⟩
  · rintro rfl
    exact absurd hdigit.1 (by decide)
  · rintro rfl
    exact absurd hdigit.2 (by decide)

theorem isPlain_of_isExponentMark {byte : UInt8} (hmark : isExponentMark byte = true) :
    IsPlain byte := by
  simp only [isExponentMark, Bool.or_eq_true, decide_eq_true_eq] at hmark
  rcases hmark with rfl | rfl <;> decide

theorem skipString_skipDigits (bytes : Bytes) :
    skipString (skipDigits bytes) = skipString bytes := by
  induction bytes with
  | nil => rfl
  | cons byte rest ih =>
    by_cases hdigit : isDigit byte = true
    · rw [skipString_plain (isPlain_of_isDigit hdigit), ← ih, skipDigits, skipDigits,
        List.dropWhile_cons_of_pos hdigit]
    · rw [skipDigits, List.dropWhile_cons_of_neg hdigit]

theorem skipString_exponentSign (bytes : Bytes) :
    skipString (exponentSign bytes).2 = skipString bytes := by
  cases bytes with
  | nil => rfl
  | cons byte rest =>
    rw [exponentSign]
    split
    · next hsign => rw [hsign, skipString_plain (by decide)]
    split
    · next hsign => rw [hsign, skipString_plain (by decide)]
    · rfl

theorem skipString_of_skipExponent {bytes rest : Bytes}
    (h : skipExponent bytes = .ok ((), rest)) : skipString bytes = skipString rest := by
  rw [← skipString_exponentSign]
  unfold skipExponent at h
  split at h
  · cases h
  · next sign byte others hsign =>
    split at h
    · next hdigit =>
      rw [Except.ok.injEq, Prod.mk.injEq] at h
      rw [hsign, skipString_plain (isPlain_of_isDigit hdigit), ← skipString_skipDigits, h.2]
    · cases h

theorem skipString_of_skipEnding {bytes rest : Bytes}
    (h : skipEnding bytes = .ok ((), rest)) : skipString bytes = skipString rest := by
  unfold skipEnding at h
  split at h
  · rw [Except.ok.injEq, Prod.mk.injEq] at h
    rw [h.2]
  · next byte others =>
    split at h
    · next hmark =>
      rw [skipString_plain (isPlain_of_isExponentMark hmark), skipString_of_skipExponent h]
    · rw [Except.ok.injEq, Prod.mk.injEq] at h
      rw [h.2]

theorem skipString_of_skipReal {bytes rest : Bytes}
    (h : skipReal bytes = .ok ((), rest)) : skipString bytes = skipString rest := by
  unfold skipReal at h
  split at h
  · rw [Except.ok.injEq, Prod.mk.injEq] at h
    rw [h.2]
  · next byte others =>
    split at h
    · next hpoint =>
      split at h
      · rw [hpoint, skipString_plain (by decide), ← skipString_skipDigits,
          skipString_of_skipEnding h]
      · cases h
    · exact skipString_of_skipEnding h

theorem skipString_of_skipNumber {bytes rest : Bytes}
    (h : skipNumber bytes = .ok ((), rest)) : skipString bytes = skipString rest := by
  unfold skipNumber at h
  split at h
  · cases h
  · next byte others =>
    split at h
    · next hzero =>
      split at h
      · cases h
      · rw [hzero, skipString_plain (by decide), skipString_of_skipReal h]
    · split at h
      · next hdigit =>
        rw [skipString_plain (isPlain_of_isDigit hdigit), ← skipString_skipDigits,
          skipString_of_skipReal h]
      · cases h

theorem skipString_of_readLetters {letters bytes rest : Bytes}
    (hletters : ∀ letter ∈ letters, IsPlain letter)
    (h : readLetters letters bytes = .ok ((), rest)) : skipString bytes = skipString rest := by
  induction letters generalizing bytes with
  | nil =>
    rw [readLetters, Except.ok.injEq, Prod.mk.injEq] at h
    rw [h.2]
  | cons letter letters ih =>
    cases bytes with
    | nil => cases h
    | cons byte others =>
      rw [readLetters] at h
      split at h
      · next hletter =>
        rw [hletter, skipString_plain (hletters letter List.mem_cons_self)]
        exact ih (fun other hother ↦ hletters other (List.mem_cons_of_mem _ hother)) h
      · cases h

/-- A scalar is a string, or all of it could stand in one. -/
theorem skipString_of_skipScalar {bytes rest : Bytes} (h : skipScalar bytes = .ok ((), rest)) :
    (∃ others, bytes = quoteMark :: others ∧ skipString others = .ok ((), rest)) ∨
      skipString bytes = skipString rest := by
  have hplain : ∀ word ∈ ["ull", "rue", "alse"], ∀ letter ∈ asciiBytes word, IsPlain letter := by
    decide +kernel
  unfold skipScalar at h
  split at h
  · cases h
  · next byte others =>
    split at h
    · next hnull =>
      rw [hnull, skipString_plain (by decide)]
      exact Or.inr (skipString_of_readLetters (hplain _ (by decide)) h)
    split at h
    · next htrue =>
      rw [htrue, skipString_plain (by decide)]
      exact Or.inr (skipString_of_readLetters (hplain _ (by decide)) h)
    split at h
    · next hfalse =>
      rw [hfalse, skipString_plain (by decide)]
      exact Or.inr (skipString_of_readLetters (hplain _ (by decide)) h)
    split at h
    · next hsign =>
      rw [hsign, skipString_plain (by decide)]
      exact Or.inr (skipString_of_skipNumber h)
    split at h
    · exact Or.inr (skipString_of_skipNumber h)
    split at h
    · next hquote => exact Or.inl ⟨others, by rw [hquote], h⟩
    · cases h

/-! ### Tokens one after another -/

/-- A byte that stands between scalars: a blank, a bracket, a comma or a colon. -/
def isMark (byte : UInt8) : Bool :=
  isBlank byte || (asciiBytes ",:[]\x7b\x7d").contains byte

/-- Bytes that are marks and scalars one after another. -/
inductive Lexes : Bytes → Prop
  | nil : Lexes []
  | mark {byte : UInt8} {rest : Bytes} (hmark : isMark byte = true) (hrest : Lexes rest) :
      Lexes (byte :: rest)
  | scalar {bytes rest : Bytes} (hscalar : skipScalar bytes = .ok ((), rest))
      (hrest : Lexes rest) : Lexes bytes

theorem Lexes.of_skipBlanks {bytes : Bytes} (h : Lexes (skipBlanks bytes)) : Lexes bytes := by
  induction bytes with
  | nil => exact .nil
  | cons byte rest ih =>
    by_cases hblank : isBlank byte = true
    · rw [skipBlanks, List.dropWhile_cons_of_pos hblank] at h
      exact .mark (by rw [isMark, hblank, Bool.true_or]) (ih h)
    · rwa [skipBlanks_cons (by simpa using hblank)] at h

theorem Lexes.of_mark {bytes rest : Bytes} {byte : UInt8}
    (hstart : skipBlanks bytes = byte :: rest) (hmark : isMark byte = true) (hrest : Lexes rest) :
    Lexes bytes :=
  .of_skipBlanks (hstart ▸ .mark hmark hrest)

theorem Lexes.of_skipKey {bytes rest : Bytes} (hkey : skipKey bytes = .ok ((), rest))
    (hrest : Lexes rest) : Lexes bytes := by
  obtain ⟨others, left, hstart, hstring, hcolon⟩ := skipKey_iff.mp hkey
  have hleft : Lexes left := .of_mark (readColon_iff.mp hcolon) (by decide) hrest
  refine .of_skipBlanks ?_
  rw [hstart]
  exact .scalar ((skipScalar_quoteMark others).trans hstring) hleft

/-- Well-formed values are tokens one after another. -/
theorem Lexes.of_passes {stage : Stage} {frames : List Frame} {bytes behind : Bytes}
    (h : Passes stage frames bytes behind) (hbehind : Lexes behind) : Lexes bytes := by
  induction h with
  | emptyList hopen hclose _ ih =>
    exact .of_mark hopen (by decide) (.of_mark hclose (by decide) (ih hbehind))
  | list hopen hfirst _ _ ih =>
    exact .of_mark hopen (by decide) (.of_skipBlanks (hfirst ▸ ih hbehind))
  | emptyObject hopen hclose _ ih =>
    exact .of_mark hopen (by decide) (.of_mark hclose (by decide) (ih hbehind))
  | object hopen hfirst _ hkey _ ih =>
    exact .of_mark hopen (by decide) (.of_skipBlanks (hfirst ▸ .of_skipKey hkey (ih hbehind)))
  | scalar hstart _ _ hscalar _ ih =>
    exact .of_skipBlanks (hstart ▸ .scalar hscalar (ih hbehind))
  | done => exact hbehind
  | nextElement hcomma _ ih => exact .of_mark hcomma (by decide) (ih hbehind)
  | endList hclose _ ih => exact .of_mark hclose (by decide) (ih hbehind)
  | nextMember hcomma hkey _ ih =>
    exact .of_mark hcomma (by decide) (.of_skipKey hkey (ih hbehind))
  | endObject hclose _ ih => exact .of_mark hclose (by decide) (ih hbehind)

/-! ### Within a string -/

/-- Bytes from within a string behind which the tokens go on. -/
def Inside (bytes : Bytes) : Prop :=
  ∃ rest, skipString bytes = .ok ((), rest) ∧ Lexes rest

theorem Inside.of_quoteMark {rest : Bytes} (h : Inside (quoteMark :: rest)) : Lexes rest := by
  obtain ⟨behind, hstring, hbehind⟩ := h
  rw [skipString, if_pos rfl, Except.ok.injEq, Prod.mk.injEq] at hstring
  rwa [hstring.2]

theorem Inside.of_cons {byte : UInt8} {rest : Bytes} (h : Inside (byte :: rest))
    (hquote : byte ≠ quoteMark) (hescape : byte ≠ backslash) : Inside rest := by
  obtain ⟨behind, hstring, hbehind⟩ := h
  rcases skipString_cons hstring with ⟨hend, -⟩ | ⟨hmore, -⟩ | ⟨-, hrest⟩
  · exact absurd hend hquote
  · exact absurd hmore hescape
  · exact ⟨behind, hrest, hbehind⟩

theorem Inside.skipBlanks {bytes : Bytes} (h : Inside bytes) : Inside (skipBlanks bytes) := by
  induction bytes with
  | nil => exact h
  | cons byte rest ih =>
    by_cases hblank : isBlank byte = true
    · rw [Json.skipBlanks, List.dropWhile_cons_of_pos hblank]
      refine ih (h.of_cons ?_ ?_)
      · rintro rfl
        exact absurd hblank (by decide)
      · rintro rfl
        exact absurd hblank (by decide)
    · rwa [skipBlanks_cons (by simpa using hblank)]

theorem Inside.skipBlanks_ne_nil {bytes : Bytes} (h : Inside bytes) :
    Json.skipBlanks bytes ≠ [] := by
  intro hnone
  obtain ⟨rest, hstring, -⟩ := h.skipBlanks
  rw [hnone, skipString] at hstring
  cases hstring

/-- What is read as a string from the end of one to the beginning of the next leaves the reader
within the next. -/
theorem Inside.of_lexes {bytes rest : Bytes} (hlexes : Lexes bytes)
    (h : skipString bytes = .ok ((), rest)) : Inside rest := by
  induction hlexes with
  | nil =>
    rw [skipString] at h
    cases h
  | mark hmark _ ih =>
    rcases skipString_cons h with ⟨rfl, -⟩ | ⟨rfl, -⟩ | ⟨-, hrest⟩
    · exact absurd hmark (by decide)
    · exact absurd hmark (by decide)
    · exact ih hrest
  | scalar hscalar hrest ih =>
    rcases skipString_of_skipScalar hscalar with ⟨others, rfl, hstring⟩ | hsame
    · rw [skipString, if_pos rfl, Except.ok.injEq, Prod.mk.injEq] at h
      exact h.2 ▸ ⟨_, hstring, hrest⟩
    · exact ih (hsame ▸ h)

theorem Inside.of_skipBlanks_eq {bytes rest : Bytes} {byte : UInt8} (h : Inside bytes)
    (hstart : Json.skipBlanks bytes = byte :: rest) (hquote : byte ≠ quoteMark)
    (hescape : byte ≠ backslash) : Inside rest :=
  (hstart ▸ h.skipBlanks).of_cons hquote hescape

theorem Inside.skipScalar {bytes rest : Bytes} (h : Inside bytes)
    (hscalar : skipScalar bytes = .ok ((), rest)) : Inside rest := by
  rcases skipString_of_skipScalar hscalar with ⟨others, rfl, hstring⟩ | hsame
  · exact .of_lexes h.of_quoteMark hstring
  · obtain ⟨behind, hbytes, hbehind⟩ := h
    exact ⟨behind, hsame ▸ hbytes, hbehind⟩

theorem Inside.readColon {bytes rest : Bytes} (h : Inside bytes)
    (hcolon : readColon bytes = .ok ((), rest)) : Inside rest :=
  h.of_skipBlanks_eq (readColon_iff.mp hcolon) (by decide) (by decide)

theorem Inside.skipKey {bytes rest : Bytes} (h : Inside bytes)
    (hkey : skipKey bytes = .ok ((), rest)) : Inside rest := by
  obtain ⟨others, left, hstart, hstring, hcolon⟩ := skipKey_iff.mp hkey
  exact (Inside.of_lexes (hstart ▸ h.skipBlanks).of_quoteMark hstring).readColon hcolon

/-- A value that is passed over from within a string ends within one. -/
theorem Inside.passes {stage : Stage} {frames : List Frame} {bytes behind : Bytes}
    (h : Passes stage frames bytes behind) (hinside : Inside bytes) : Inside behind := by
  induction h with
  | emptyList hopen hclose _ ih =>
    exact ih ((hinside.of_skipBlanks_eq hopen (by decide) (by decide)).of_skipBlanks_eq hclose
      (by decide) (by decide))
  | list hopen hfirst _ _ ih =>
    exact ih (hfirst ▸ (hinside.of_skipBlanks_eq hopen (by decide) (by decide)).skipBlanks)
  | emptyObject hopen hclose _ ih =>
    exact ih ((hinside.of_skipBlanks_eq hopen (by decide) (by decide)).of_skipBlanks_eq hclose
      (by decide) (by decide))
  | object hopen hfirst _ hkey _ ih =>
    exact ih ((hfirst ▸ (hinside.of_skipBlanks_eq hopen (by decide) (by decide)).skipBlanks :
      Inside _).skipKey hkey)
  | scalar hstart _ _ hscalar _ ih => exact ih ((hstart ▸ hinside.skipBlanks).skipScalar hscalar)
  | done => exact hinside
  | nextElement hcomma _ ih => exact ih (hinside.of_skipBlanks_eq hcomma (by decide) (by decide))
  | endList hclose _ ih => exact ih (hinside.of_skipBlanks_eq hclose (by decide) (by decide))
  | nextMember hcomma hkey _ ih =>
    exact ih ((hinside.of_skipBlanks_eq hcomma (by decide) (by decide)).skipKey hkey)
  | endObject hclose _ ih => exact ih (hinside.of_skipBlanks_eq hclose (by decide) (by decide))

/-! ### Keys -/

theorem isAlpha_of_isMark {byte : UInt8} (hmark : isMark byte = true) :
    byte.toNat < 0x80 ∧ (Char.ofNat byte.toNat).isAlpha = false := by
  have hother : ∀ other ∈ asciiBytes ",:[]\x7b\x7d",
      other.toNat < 0x80 ∧ (Char.ofNat other.toNat).isAlpha = false := by
    decide +kernel
  rw [isMark, Bool.or_eq_true] at hmark
  rcases hmark with hblank | hmark
  · simp only [isBlank, Bool.or_eq_true, decide_eq_true_eq] at hblank
    rcases hblank with ((rfl | rfl) | rfl) | rfl <;> decide
  · exact hother byte (List.elem_iff.mp hmark)

theorem isAlpha_of_isDigit {byte : UInt8} (hdigit : isDigit byte = true) :
    byte.toNat < 0x80 ∧ (Char.ofNat byte.toNat).isAlpha = false := by
  have hcode : ∀ value < 0x3A, 0x30 ≤ value → (Char.ofNat value).isAlpha = false := by
    decide
  rw [isDigit, Bool.and_eq_true, decide_eq_true_eq, decide_eq_true_eq] at hdigit
  exact ⟨by omega, hcode byte.toNat (by omega) hdigit.1⟩

/-- The front of what is read as a key behind the end of a string: no letter, or that of a word. -/
def StartsWord : List Char → Prop
  | [] => True
  | character :: others => character.isAlpha = true →
      character = 't' ∨ character = 'f' ∨ character = 'n' ∧ others.head? = some 'u'

instance decidableStartsWord : (characters : List Char) → Decidable (StartsWord characters)
  | [] => inferInstanceAs (Decidable True)
  | character :: others => inferInstanceAs (Decidable (character.isAlpha = true →
      character = 't' ∨ character = 'f' ∨ character = 'n' ∧ others.head? = some 'u'))

theorem startsWord_of_isAlpha {byte : UInt8} {bytes rest : Bytes} {name : String}
    (hplain : IsPlain byte)
    (halpha : byte.toNat < 0x80 ∧ (Char.ofNat byte.toNat).isAlpha = false)
    (h : readString (byte :: bytes) = .ok (name, rest)) : StartsWord name.toList := by
  obtain ⟨others, -, hname⟩ := readString_cons hplain halpha.1 h
  rw [hname]
  intro hletter
  rw [halpha.2] at hletter
  cases hletter

theorem startsWord_of_null {bytes left rest : Bytes} {name : String}
    (hword : readLetters (asciiBytes "ull") bytes = .ok ((), left))
    (h : readString (ascii 'n' :: bytes) = .ok (name, rest)) : StartsWord name.toList := by
  obtain ⟨second, hsecond, hname⟩ := readString_cons (by decide) (by decide) h
  cases bytes with
  | nil => cases hword
  | cons letter others =>
    change readLetters (ascii 'u' :: asciiBytes "ll") (letter :: others) = _ at hword
    rw [readLetters] at hword
    split at hword
    · next hletter =>
      subst hletter
      obtain ⟨third, -, hsecondName⟩ := readString_cons (by decide) (by decide) hsecond
      rw [hname, hsecondName]
      exact fun _ ↦ Or.inr (Or.inr ⟨by decide, rfl⟩)
    · cases hword

theorem startsWord_of_letter {byte : UInt8} {bytes rest : Bytes} {name : String}
    (hbyte : byte = ascii 't' ∨ byte = ascii 'f')
    (h : readString (byte :: bytes) = .ok (name, rest)) : StartsWord name.toList := by
  rcases hbyte with rfl | rfl
  · obtain ⟨second, -, hname⟩ := readString_cons (by decide) (by decide) h
    rw [hname]
    exact fun _ ↦ Or.inl (by decide)
  · obtain ⟨second, -, hname⟩ := readString_cons (by decide) (by decide) h
    rw [hname]
    exact fun _ ↦ Or.inr (Or.inl (by decide))

theorem startsWord_of_quoteMark {bytes rest : Bytes} {name : String}
    (h : readString (quoteMark :: bytes) = .ok (name, rest)) : StartsWord name.toList := by
  rw [readString, readContent_quoteMark] at h
  dsimp only at h
  rw [Text.Utf8.decode?, Text.Utf8.decodeChars?, Option.map_some, Except.ok.injEq,
    Prod.mk.injEq] at h
  rw [← h.1, String.toList_ofList]
  exact trivial

theorem startsWord_of_skipScalar {bytes left rest : Bytes} {name : String}
    (hscalar : skipScalar bytes = .ok ((), left)) (h : readString bytes = .ok (name, rest)) :
    StartsWord name.toList := by
  unfold skipScalar at hscalar
  split at hscalar
  · cases hscalar
  split at hscalar
  · next hnull => exact startsWord_of_null hscalar (hnull ▸ h)
  split at hscalar
  · next htrue => exact startsWord_of_letter (Or.inl htrue) h
  split at hscalar
  · next hfalse => exact startsWord_of_letter (Or.inr hfalse) h
  split at hscalar
  · next hsign =>
    subst hsign
    exact startsWord_of_isAlpha (by decide) (by decide) h
  split at hscalar
  · next hdigit =>
    exact startsWord_of_isAlpha (isPlain_of_isDigit hdigit) (isAlpha_of_isDigit hdigit) h
  split at hscalar
  · next hquote => exact startsWord_of_quoteMark (hquote ▸ h)
  · cases hscalar

theorem startsWord_of_readString {bytes rest : Bytes} {name : String} (hlexes : Lexes bytes)
    (h : readString bytes = .ok (name, rest)) : StartsWord name.toList := by
  cases hlexes with
  | nil =>
    rw [readString, readContent] at h
    cases h
  | mark hmark _ =>
    rcases skipString_cons (skipString_of_readString h) with ⟨rfl, -⟩ | ⟨rfl, -⟩ | ⟨hplain, -⟩
    · exact absurd hmark (by decide)
    · exact absurd hmark (by decide)
    · exact startsWord_of_isAlpha hplain (isAlpha_of_isMark hmark) h
  | scalar hscalar _ => exact startsWord_of_skipScalar hscalar h

end TokenService.Json
