import Mathlib.Tactic.ByContra
import TokenService.Json.Keep
import TokenService.Proofs.Json.Number
import TokenService.Proofs.Json.Text

/-!
# Kept values are skipped alike

A value that a reader keeps is well formed, so passing over it leaves the same bytes
(`skipString_of_readString`, `Alike.skipped`). The converse fails where the value is well formed and
yet not kept: a string whose escapes or bytes are no text, a number out of range, a value of the
wrong kind. Then the reader gives up, and only in a few places: at the end of the value, in front of
a digit, or within a string that ends where the value does (`GivenUp`, `alike_scalar`,
`givenUp_misfit`).
-/

set_option autoImplicit false
set_option relaxedAutoImplicit false

namespace TokenService.Json

/-! ### Strings -/

theorem skipString_backslash {bytes rest : Bytes} (h : skipEscape bytes = .ok ((), rest)) :
    skipString (backslash :: bytes) = skipString rest := by
  rw [skipString, if_neg (by decide), if_pos rfl]
  split
  · next hfault =>
    rw [h] at hfault
    cases hfault
  · next hread =>
    rw [h, Except.ok.injEq, Prod.mk.injEq] at hread
    rw [hread.2]

theorem skipEscape_code {bytes rest : Bytes} {value : Nat} (h : readHex bytes = .ok (value, rest)) :
    skipEscape (ascii 'u' :: bytes) = .ok ((), rest) := by
  have hplain : (plainEscape? (ascii 'u')).isSome = false := by decide
  rw [skipEscape, hplain, if_neg (by decide), if_pos rfl, h]

theorem exists_readHex {bytes rest : Bytes} (h : skipEscape (ascii 'u' :: bytes) = .ok ((), rest)) :
    ∃ value, readHex bytes = .ok (value, rest) := by
  have hplain : (plainEscape? (ascii 'u')).isSome = false := by decide
  rw [skipEscape, hplain, if_neg (by decide), if_pos rfl] at h
  split at h
  · cases h
  · next value left hhex =>
    rw [Except.ok.injEq, Prod.mk.injEq] at h
    exact ⟨value, by rw [hhex, h.2]⟩

/-- The second half of a pair of code units is an escape of its own. -/
theorem skipString_of_readLowSurrogate {high : Nat} {bytes part rest : Bytes}
    (h : readLowSurrogate high bytes = .ok (part, rest)) : skipString bytes = skipString rest := by
  unfold readLowSurrogate at h
  split at h
  · cases h
  · split at h <;> cases h
  · next byte letter others =>
    split at h
    · cases h
    split at h
    · cases h
    · next hbyte hletter =>
      rw [Decidable.not_not] at hbyte hletter
      split at h
      · cases h
      · next low left hhex =>
        split at h
        · rw [Except.ok.injEq, Prod.mk.injEq] at h
          rw [hbyte, hletter, skipString_backslash (skipEscape_code hhex), h.2]
        · cases h

theorem skipString_of_readEscape {bytes part rest : Bytes}
    (h : readEscape bytes = .ok (part, rest)) :
    skipString (backslash :: bytes) = skipString rest := by
  unfold readEscape at h
  split at h
  · cases h
  · next letter others =>
    split at h
    · next byte hplain =>
      rw [Except.ok.injEq, Prod.mk.injEq] at h
      refine skipString_backslash ?_
      rw [skipEscape, hplain, Option.isSome_some, if_pos rfl, h.2]
    split at h
    · next hletter =>
      unfold readCodeUnits at h
      split at h
      · cases h
      · next value left hhex =>
        rw [hletter, skipString_backslash (skipEscape_code hhex)]
        split at h
        · cases h
        split at h
        · exact skipString_of_readLowSurrogate h
        · rw [Except.ok.injEq, Prod.mk.injEq] at h
          rw [h.2]
    · cases h

theorem skipString_plain {byte : UInt8} (hplain : IsPlain byte) (rest : Bytes) :
    skipString (byte :: rest) = skipString rest := by
  obtain ⟨hquote, hescape, hcontrol⟩ := hplain
  rw [skipString, if_neg hquote, if_neg hescape, if_neg (by omega)]

/-- A string that is passed over ends, goes on with an escape, or with a byte for itself. -/
theorem skipString_cons {byte : UInt8} {bytes rest : Bytes}
    (h : skipString (byte :: bytes) = .ok ((), rest)) :
    (byte = quoteMark ∧ rest = bytes) ∨
      (byte = backslash ∧ ∃ others, skipEscape bytes = .ok ((), others) ∧
        skipString others = .ok ((), rest)) ∨
      (IsPlain byte ∧ skipString bytes = .ok ((), rest)) := by
  rw [skipString] at h
  by_cases hquote : byte = quoteMark
  · rw [if_pos hquote, Except.ok.injEq, Prod.mk.injEq] at h
    exact Or.inl ⟨hquote, h.2.symm⟩
  rw [if_neg hquote] at h
  by_cases hescape : byte = backslash
  · rw [if_pos hescape] at h
    split at h
    · cases h
    · next others hread => exact Or.inr (Or.inl ⟨hescape, others, hread, h⟩)
  rw [if_neg hescape] at h
  by_cases hcontrol : byte.toNat < 0x20
  · rw [if_pos hcontrol] at h
    cases h
  · rw [if_neg hcontrol] at h
    exact Or.inr (Or.inr ⟨⟨hquote, hescape, by omega⟩, h⟩)

theorem exists_skipEscape {bytes rest : Bytes}
    (h : skipString (backslash :: bytes) = .ok ((), rest)) :
    ∃ others, skipEscape bytes = .ok ((), others) ∧ skipString others = .ok ((), rest) := by
  rcases skipString_cons h with ⟨hquote, -⟩ | ⟨-, hmore⟩ | ⟨hplain, -⟩
  · exact absurd hquote (by decide)
  · exact hmore
  · exact absurd rfl hplain.2.1

theorem skipString_of_readContent {bytes content rest : Bytes}
    (h : readContent bytes = .ok (content, rest)) : skipString bytes = .ok ((), rest) := by
  fun_induction readContent bytes generalizing content rest with
  | case1 => cases h
  | case2 others =>
    rw [Except.ok.injEq, Prod.mk.injEq] at h
    rw [skipString, if_pos rfl, h.2]
  | case3 => cases h
  | case4 => cases h
  | case5 others part left hescape more end' hcontent hquote ih =>
    rw [Except.ok.injEq, Prod.mk.injEq] at h
    rw [skipString_of_readEscape hescape, ih hcontent, h.2]
  | case6 => cases h
  | case7 => cases h
  | case8 byte others hquote hescape hcontrol more end' hcontent ih =>
    rw [Except.ok.injEq, Prod.mk.injEq] at h
    rw [skipString_plain ⟨hquote, hescape, by omega⟩, ih hcontent, h.2]

theorem skipString_of_readString {bytes rest : Bytes} {text : String}
    (h : readString bytes = .ok (text, rest)) : skipString bytes = .ok ((), rest) := by
  unfold readString at h
  split at h
  · cases h
  · next content others hcontent =>
    split at h
    · rw [Except.ok.injEq, Prod.mk.injEq] at h
      rw [skipString_of_readContent hcontent, h.2]
    · cases h

/-! ### Numbers -/

theorem skipDigits_takeDigits (value : Nat) (bytes : Bytes) :
    skipDigits (takeDigits value bytes).rest = skipDigits bytes := by
  induction bytes generalizing value with
  | nil => rfl
  | cons byte rest ih =>
    rw [takeDigits]
    dsimp only
    split
    · next htaken =>
      rw [Bool.and_eq_true] at htaken
      rw [ih, skipDigits, skipDigits, List.dropWhile_cons_of_pos htaken.1]
    · rfl

/-- Digits follow exactly if some are taken or, with the limit reached, are still ahead. -/
theorem startsWithDigit_of_takeDigits {value : Nat} {bytes : Bytes} :
    ((takeDigits value bytes).count = 0 ∧ startsWithDigit (takeDigits value bytes).rest = false) ↔
      startsWithDigit bytes = false := by
  cases bytes with
  | nil => simp [takeDigits, startsWithDigit]
  | cons byte rest =>
    rw [takeDigits]
    dsimp only
    split
    · next htaken =>
      rw [Bool.and_eq_true] at htaken
      simp [startsWithDigit, htaken.1]
    · simp [startsWithDigit]

theorem startsWithDigit_skipDigits (bytes : Bytes) :
    startsWithDigit (skipDigits bytes) = false := by
  induction bytes with
  | nil => rfl
  | cons byte rest ih =>
    by_cases hbyte : isDigit byte = true
    · rwa [skipDigits, List.dropWhile_cons_of_pos hbyte]
    · rw [skipDigits, List.dropWhile_cons_of_neg hbyte]
      simpa [startsWithDigit] using hbyte

theorem skipDigits_takeExponent (value : Nat) (bytes : Bytes) :
    skipDigits (takeExponent value bytes).2 = skipDigits bytes ∧
      ((takeExponent value bytes).1.isSome = true →
        (takeExponent value bytes).2 = skipDigits bytes) := by
  induction bytes generalizing value with
  | nil => exact ⟨rfl, fun _ ↦ rfl⟩
  | cons byte rest ih =>
    rw [takeExponent]
    split
    · next hdigit =>
      have hskip : skipDigits (byte :: rest) = skipDigits rest := by
        rw [skipDigits, List.dropWhile_cons_of_pos hdigit, skipDigits]
      rw [hskip]
      dsimp only
      split
      · exact ih _
      · exact ⟨rfl, fun hnone ↦ by cases hnone⟩
    · next hdigit =>
      have hskip : skipDigits (byte :: rest) = byte :: rest := by
        rw [skipDigits, List.dropWhile_cons_of_neg hdigit]
      exact ⟨rfl, fun _ ↦ hskip.symm⟩

/-- A number that is passed over and the same number kept: they end at the same place, or the
number is too large and from where that was found only digits lead to its end. Neither reader takes
a malformed number. -/
def Matches {α : Type} : Reading Unit → Reading α → Prop
  | .ok (_, rest), .ok (_, left) => left = rest
  | .ok (_, rest), .error fault => skipDigits fault.unread = rest
  | .error _, .ok _ => False
  | .error _, .error _ => True

theorem matches_magnitude (significand : Nat) (exponent : Int) {rest : Bytes}
    (hrest : startsWithDigit rest = false) :
    Matches (.ok ((), rest)) (magnitude significand exponent rest) := by
  unfold magnitude
  split
  · exact rfl
  · exact skipDigits_of_startsWithDigit_eq_false hrest

theorem matches_exponent (significand : Nat) (exponent : Int) (bytes : Bytes) :
    Matches (skipExponent bytes) (readExponent significand exponent bytes) := by
  unfold skipExponent readExponent
  split
  · exact trivial
  · next sign byte rest hsign =>
    by_cases hdigit : isDigit byte = true
    · rw [if_pos hdigit]
      obtain ⟨hskip, hend⟩ := skipDigits_takeExponent (digitValue byte) rest
      rw [if_pos hdigit]
      split
      · next value others htaken =>
        rw [htaken] at hend
        have hothers : others = skipDigits rest := hend rfl
        rw [hothers]
        exact matches_magnitude _ _ (startsWithDigit_skipDigits rest)
      · next others htaken =>
        rw [htaken] at hskip
        split
        · exact hskip
        · exact hskip
    · rw [if_neg hdigit, if_neg hdigit]
      exact trivial

theorem matches_ending (significand : Nat) (exponent : Int) {bytes : Bytes}
    (hbytes : startsWithDigit bytes = false) :
    Matches (skipEnding bytes) (readEnding significand exponent bytes) := by
  cases bytes with
  | nil => exact matches_magnitude _ _ hbytes
  | cons byte rest =>
    rw [skipEnding, readEnding]
    split
    · exact matches_exponent _ _ rest
    · exact matches_magnitude _ _ hbytes

theorem matches_real (significand : Nat) (exponent : Int) {bytes : Bytes}
    (hbytes : startsWithDigit bytes = false) :
    Matches (skipReal bytes) (readReal significand exponent bytes) := by
  cases bytes with
  | nil => exact matches_magnitude _ _ hbytes
  | cons byte rest =>
    rw [skipReal, readReal]
    split
    · rw [readFraction]
      have hdigits := @startsWithDigit_of_takeDigits significand rest
      by_cases hrest : startsWithDigit rest = true
      · rw [if_pos hrest, if_neg, skipDigits_takeDigits]
        · exact matches_ending _ _ (startsWithDigit_skipDigits rest)
        · intro hnone
          rw [Bool.and_eq_true, decide_eq_true_eq, Bool.not_eq_true'] at hnone
          rw [hdigits.mp hnone] at hrest
          cases hrest
      · rw [if_neg hrest, if_pos]
        · exact trivial
        · rw [Bool.and_eq_true, decide_eq_true_eq, Bool.not_eq_true']
          exact hdigits.mpr (by simpa using hrest)
    · exact matches_ending _ _ hbytes

theorem skipReal_of_startsReal_eq_false {bytes : Bytes} (hends : startsReal bytes = false) :
    skipReal bytes = .ok ((), bytes) := by
  cases bytes with
  | nil => rfl
  | cons byte rest =>
    simp only [startsReal, List.head?_cons, Option.any_some, Bool.or_eq_false_iff,
      decide_eq_false_iff_not] at hends
    rw [skipReal, if_neg hends.1, skipEnding, if_neg (by simp [hends.2])]

theorem matches_classify (negative : Bool) (value places : Nat) {bytes : Bytes}
    (hbytes : startsWithDigit bytes = false) :
    Matches (skipReal bytes) (classify negative value places bytes) := by
  unfold classify
  split
  · next number hnumber =>
    have hends : startsReal bytes = false := by
      by_contra hreal
      rw [Bool.not_eq_false] at hreal
      simp [hreal] at hnumber
    rw [skipReal_of_startsReal_eq_false hends]
    exact rfl
  · have hreal := matches_real value places hbytes
    cases hskip : skipReal bytes with
    | error fault =>
      rw [hskip] at hreal
      split
      · exact trivial
      · next hread => rwa [hread] at hreal
    | ok skipped =>
      rw [hskip] at hreal
      split
      · next hread => rwa [hread] at hreal
      · next hread => rwa [hread] at hreal

theorem matches_number (negative : Bool) (bytes : Bytes) :
    Matches (skipNumber bytes) (readNumber negative bytes) := by
  cases bytes with
  | nil => exact trivial
  | cons byte rest =>
    rw [skipNumber, readNumber]
    split
    · split
      · exact trivial
      · next hrest => exact matches_classify _ _ _ (by simpa using hrest)
    split
    · dsimp only
      rw [skipDigits_takeDigits]
      exact matches_classify _ _ _ (startsWithDigit_skipDigits rest)
    · exact trivial

/-! ### Scalars -/

theorem skipScalar_quoteMark (rest : Bytes) : skipScalar (quoteMark :: rest) = skipString rest :=
  rfl

/-- A string is a scalar. -/
theorem readScalar_of_readText {bytes rest : Bytes} {text : String}
    (h : readText bytes = .ok (text, rest)) :
    ∃ others, skipBlanks bytes = quoteMark :: others ∧
      readScalar (quoteMark :: others) = .ok (.text text, rest) := by
  unfold readText at h
  split at h
  · cases h
  · next byte others hstart =>
    split at h
    · next hquote =>
      refine ⟨others, hquote ▸ hstart, ?_⟩
      rw [readScalar, if_neg (by decide), if_neg (by decide), if_neg (by decide),
        if_neg (by decide), if_neg (by decide), if_pos rfl, h]
    · cases h

/-! ### Where a kept scalar is given up -/

/-- Where a fault leaves the reader of a scalar whose skipped form ends at `rest`: at its end, in
front of digits of a number too large, or inside the string. -/
def GivenUp (unread rest : Bytes) : Prop :=
  unread = rest ∨ startsWithDigit unread = true ∨ skipString unread = .ok ((), rest)

theorem givenUp_of_ne_backslash {byte : UInt8} {bytes rest : Bytes} (hbyte : byte ≠ backslash)
    (hskip : skipString (byte :: bytes) = .ok ((), rest)) : GivenUp bytes rest := by
  rcases skipString_cons hskip with ⟨-, hrest⟩ | ⟨hescape, -⟩ | ⟨-, hleft⟩
  · exact Or.inl hrest.symm
  · exact absurd hescape hbyte
  · exact Or.inr (Or.inr hleft)

theorem givenUp_of_ne_unit {letter : UInt8} {bytes rest : Bytes} (hletter : letter ≠ ascii 'u')
    (hskip : skipString (backslash :: letter :: bytes) = .ok ((), rest)) : GivenUp bytes rest := by
  obtain ⟨left, hescape, hleft⟩ := exists_skipEscape hskip
  rw [skipEscape] at hescape
  split at hescape
  · rw [Except.ok.injEq, Prod.mk.injEq] at hescape
    rw [← hescape.2] at hleft
    exact Or.inr (Or.inr hleft)
  · cases hescape

theorem givenUp_lowSurrogate {high : Nat} {bytes rest : Bytes} {fault : Fault}
    (hread : readLowSurrogate high bytes = .error fault)
    (hskip : skipString bytes = .ok ((), rest)) : GivenUp fault.unread rest := by
  unfold readLowSurrogate at hread
  split at hread
  · rw [skipString] at hskip
    cases hskip
  · next byte =>
    have hunread : fault.unread = [] := by
      split at hread <;> rw [← Except.error.inj hread] <;> rfl
    by_cases hbyte : byte = backslash
    · rw [hbyte] at hskip
      obtain ⟨others, hescape, -⟩ := exists_skipEscape hskip
      rw [skipEscape] at hescape
      cases hescape
    · rw [hunread]
      exact givenUp_of_ne_backslash hbyte hskip
  · next byte letter others =>
    split at hread
    · next hbyte =>
      rw [← Except.error.inj hread]
      exact givenUp_of_ne_backslash hbyte hskip
    next hbyte =>
    rw [Decidable.not_not.mp hbyte] at hskip
    split at hread
    · next hletter =>
      rw [← Except.error.inj hread]
      exact givenUp_of_ne_unit hletter hskip
    next hletter =>
    rw [Decidable.not_not.mp hletter] at hskip
    obtain ⟨left, hescape, hleft⟩ := exists_skipEscape hskip
    obtain ⟨low, hhex⟩ := exists_readHex hescape
    rw [hhex] at hread
    dsimp only at hread
    split at hread
    · cases hread
    · rw [← Except.error.inj hread]
      exact Or.inr (Or.inr hleft)

theorem givenUp_escape {bytes rest : Bytes} {fault : Fault}
    (hread : readEscape bytes = .error fault)
    (hskip : skipString (backslash :: bytes) = .ok ((), rest)) : GivenUp fault.unread rest := by
  obtain ⟨others, hescape, hothers⟩ := exists_skipEscape hskip
  unfold readEscape at hread
  split at hread
  · rw [skipEscape] at hescape
    cases hescape
  · next letter left =>
    split at hread
    · cases hread
    next hnone =>
    split at hread
    · next hletter =>
      rw [hletter] at hescape
      obtain ⟨value, hhex⟩ := exists_readHex hescape
      rw [readCodeUnits, hhex] at hread
      dsimp only at hread
      split at hread
      · rw [← Except.error.inj hread]
        exact Or.inr (Or.inr hothers)
      split at hread
      · exact givenUp_lowSurrogate hread hothers
      · cases hread
    · next hletter =>
      rw [skipEscape, hnone, Option.isSome_none, if_neg (by decide), if_neg hletter] at hescape
      cases hescape

theorem givenUp_content {bytes rest : Bytes} {fault : Fault}
    (hread : readContent bytes = .error fault) (hskip : skipString bytes = .ok ((), rest)) :
    GivenUp fault.unread rest := by
  fun_induction readContent bytes with
  | case1 =>
    rw [skipString] at hskip
    cases hskip
  | case2 => cases hread
  | case3 others cause hescape hquote =>
    rw [← Except.error.inj hread]
    exact givenUp_escape hescape hskip
  | case4 others part left hescape cause hcontent hquote ih =>
    rw [Except.error.injEq] at hread
    rw [skipString_of_readEscape hescape] at hskip
    exact ih (hread ▸ hcontent) hskip
  | case5 => cases hread
  | case6 byte others hquote hescape hcontrol =>
    rcases skipString_cons hskip with ⟨hend, -⟩ | ⟨hmore, -⟩ | ⟨hplain, -⟩
    · exact absurd hend hquote
    · exact absurd hmore hescape
    · exact absurd hplain.2.2 (by omega)
  | case7 byte others hquote hescape hcontrol cause hcontent ih =>
    rw [Except.error.injEq] at hread
    rw [skipString_plain ⟨hquote, hescape, by omega⟩] at hskip
    exact ih (hread ▸ hcontent) hskip
  | case8 => cases hread

theorem givenUp_string {bytes rest : Bytes} {fault : Fault}
    (hread : readString bytes = .error fault) (hskip : skipString bytes = .ok ((), rest)) :
    GivenUp fault.unread rest := by
  unfold readString at hread
  split at hread
  · next hcontent =>
    rw [← Except.error.inj hread]
    exact givenUp_content hcontent hskip
  · next content left hcontent =>
    split at hread
    · cases hread
    · rw [skipString_of_readContent hcontent, Except.ok.injEq, Prod.mk.injEq] at hskip
      rw [← Except.error.inj hread]
      exact Or.inl hskip.2

/-- A scalar that is passed over and the same scalar kept: they end at the same place, or the kept
one is given up. Neither reader takes a malformed scalar. -/
def Alike {α : Type} : Reading Unit → Reading α → Prop
  | .ok (_, rest), .ok (_, left) => left = rest
  | .ok (_, rest), .error fault => GivenUp fault.unread rest
  | .error _, .ok _ => False
  | .error _, .error _ => True

theorem Alike.skipped {α : Type} {skipped : Reading Unit} {value : α} {rest : Bytes}
    (h : Alike skipped (.ok (value, rest))) : skipped = .ok ((), rest) := by
  cases skipped with
  | error fault => exact h.elim
  | ok reached =>
    have hrest : rest = reached.2 := h
    rw [hrest]

theorem alike_number (negative : Bool) (bytes : Bytes) :
    Alike (skipNumber bytes) (readNumber negative bytes) := by
  have hmatches := matches_number negative bytes
  cases hskip : skipNumber bytes with
  | error fault =>
    rw [hskip] at hmatches
    cases hread : readNumber negative bytes with
    | error cause => exact trivial
    | ok read =>
      rw [hread] at hmatches
      exact hmatches.elim
  | ok skipped =>
    rw [hskip] at hmatches
    cases hread : readNumber negative bytes with
    | error fault =>
      rw [hread] at hmatches
      have hdigits : skipDigits fault.unread = skipped.2 := hmatches
      by_cases hstart : startsWithDigit fault.unread = true
      · exact Or.inr (Or.inl hstart)
      · rw [skipDigits_of_startsWithDigit_eq_false (by simpa using hstart)] at hdigits
        exact Or.inl hdigits
    | ok read =>
      rw [hread] at hmatches
      exact hmatches

theorem alike_string (bytes : Bytes) : Alike (skipString bytes) (readString bytes) := by
  cases hread : readString bytes with
  | ok read =>
    rw [skipString_of_readString hread]
    exact rfl
  | error fault =>
    cases hskip : skipString bytes with
    | error cause => exact trivial
    | ok skipped => exact givenUp_string hread hskip

theorem alike_scalar (bytes : Bytes) : Alike (skipScalar bytes) (readScalar bytes) := by
  have hword : ∀ letters word others, Alike (readLetters (asciiBytes letters) others)
      (readScalar.readWord letters word others) := by
    intro letters word others
    unfold readScalar.readWord
    cases readLetters (asciiBytes letters) others with
    | error fault => exact trivial
    | ok read => exact rfl
  have hamount : ∀ negative others,
      Alike (skipNumber others) (readScalar.readAmount negative others) := by
    intro negative others
    have halike := alike_number negative others
    unfold readScalar.readAmount
    revert halike
    cases readNumber negative others <;> cases skipNumber others <;> exact id
  cases bytes with
  | nil => exact trivial
  | cons byte others =>
    rw [readScalar, skipScalar]
    split
    · exact hword _ _ others
    split
    · exact hword _ _ others
    split
    · exact hword _ _ others
    split
    · exact hamount _ others
    split
    · exact hamount _ _
    split
    · have halike := alike_string others
      revert halike
      cases readString others <;> cases skipString others <;> exact id
    · exact trivial

section Scalar

variable {bytes rest : Bytes} (hskip : skipScalar bytes = .ok ((), rest))
include hskip

theorem givenUp_scalar {fault : Fault} (hread : readScalar bytes = .error fault) :
    GivenUp fault.unread rest := by
  have halike := alike_scalar bytes
  rwa [hskip, hread] at halike

theorem eq_of_readScalar {scalar : Scalar} {left : Bytes}
    (hread : readScalar bytes = .ok (scalar, left)) : left = rest := by
  have halike := alike_scalar bytes
  rwa [hskip, hread] at halike

end Scalar

/-! ### Scalars of the wrong kind -/

theorem givenUp_misfitWord {letters : String} {found : Found} {wanted : String} {bytes rest : Bytes}
    (h : readLetters (asciiBytes letters) bytes = .ok ((), rest)) :
    GivenUp (misfitWord letters found wanted bytes).unread rest := by
  rw [misfitWord, h]
  exact Or.inl rfl

theorem givenUp_misfitNumber {negative : Bool} {wanted : String} {bytes rest : Bytes}
    (h : skipNumber bytes = .ok ((), rest)) :
    GivenUp (misfitNumber negative wanted bytes).unread rest := by
  have halike := alike_number negative bytes
  rw [h] at halike
  unfold misfitNumber
  split
  · next hread => rwa [hread] at halike
  · next hread =>
    rw [hread] at halike
    exact Or.inl halike

theorem givenUp_misfitText {wanted : String} {bytes rest : Bytes}
    (h : skipString bytes = .ok ((), rest)) :
    GivenUp (misfitText wanted bytes).unread rest := by
  have halike := alike_string bytes
  rw [h] at halike
  unfold misfitText
  split
  · next hread => rwa [hread] at halike
  · next hread =>
    rw [hread] at halike
    exact Or.inl halike

/-- A scalar where something else was wanted is read to its end or given up within. -/
theorem givenUp_misfit {wanted : String} {byte : UInt8} {others rest : Bytes}
    (h : skipScalar (byte :: others) = .ok ((), rest)) :
    GivenUp (misfit wanted (byte :: others)).unread rest := by
  rw [skipScalar] at h
  rw [misfit]
  split at h
  · next hnull =>
    rw [if_pos hnull]
    exact givenUp_misfitWord h
  next hnull =>
  split at h
  · next htrue =>
    rw [if_neg hnull, if_pos htrue]
    exact givenUp_misfitWord h
  next htrue =>
  split at h
  · next hfalse =>
    rw [if_neg hnull, if_neg htrue, if_pos hfalse]
    exact givenUp_misfitWord h
  next hfalse =>
  split at h
  · next hsign =>
    rw [if_neg hnull, if_neg htrue, if_neg hfalse, if_pos hsign]
    exact givenUp_misfitNumber h
  next hsign =>
  split at h
  · next hdigit =>
    rw [if_neg hnull, if_neg htrue, if_neg hfalse, if_neg hsign, if_pos hdigit]
    exact givenUp_misfitNumber h
  next hdigit =>
  split at h
  · next hquote =>
    rw [if_neg hnull, if_neg htrue, if_neg hfalse, if_neg hsign, if_neg hdigit, if_pos hquote]
    exact givenUp_misfitText h
  · cases h

end TokenService.Json
