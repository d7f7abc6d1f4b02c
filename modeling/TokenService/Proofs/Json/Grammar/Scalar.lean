import TokenService.Proofs.Json.Grammar.Record

/-!
# Scalars that are kept

A scalar is kept exactly if it is spelled (`exists_of_readScalar`, `readScalar_append`). For words
and strings this is the grammar of texts over again. The grammar of a number does not tell its
value, and whether a number is too large is up to the reader of numbers; so what has to be shown of
this reader is that it does not look behind the number. What it takes from in front of some bytes it
takes from in front of any others that end a number (`Detaches`), one lemma for each of its parts.
-/

set_option autoImplicit false
set_option relaxedAutoImplicit false

namespace TokenService.Json

variable {part rest other : Bytes}

/-! ### Digits in front of other bytes -/

section Front

variable (hrest : startsWithDigit rest = false)
include hrest

theorem startsWithDigit_append (part : Bytes) :
    startsWithDigit (part ++ rest) = startsWithDigit part := by
  cases part with
  | nil => exact hrest
  | cons byte part => rfl

theorem skipDigits_append_of_ends (part : Bytes) :
    skipDigits (part ++ rest) = skipDigits part ++ rest := by
  induction part with
  | nil => exact skipDigits_of_startsWithDigit_eq_false hrest
  | cons byte part ih =>
    simp only [skipDigits, List.cons_append, List.dropWhile_cons] at ih ⊢
    split
    · exact ih
    · rfl

theorem takeDigits_append_of_ends (value : Nat) (part : Bytes) :
    takeDigits value (part ++ rest) =
      ⟨(takeDigits value part).value, (takeDigits value part).count,
        (takeDigits value part).rest ++ rest⟩ := by
  induction part generalizing value with
  | nil => exact takeDigits_of_startsWithDigit_eq_false value hrest
  | cons byte part ih =>
    rw [List.cons_append, takeDigits, takeDigits]
    dsimp only
    split
    · rw [ih]
    · rfl

theorem takeExponent_append (value : Nat) (part : Bytes) :
    takeExponent value (part ++ rest) =
      ((takeExponent value part).1, (takeExponent value part).2 ++ rest) := by
  induction part generalizing value with
  | nil =>
    cases rest with
    | nil => rfl
    | cons byte rest =>
      rw [startsWithDigit_cons] at hrest
      simp [takeExponent, hrest]
  | cons byte part ih =>
    rw [List.cons_append, takeExponent, takeExponent]
    split
    · dsimp only
      split
      · exact ih _
      · rfl
    · rfl

end Front

theorem exponentSign_append (hpart : part ≠ []) (rest : Bytes) :
    exponentSign (part ++ rest) = ((exponentSign part).1, (exponentSign part).2 ++ rest) := by
  obtain ⟨byte, part, rfl⟩ := List.exists_cons_of_ne_nil hpart
  rw [List.cons_append, exponentSign, exponentSign]
  split_ifs <;> rfl

/-! ### Numbers in front of other bytes -/

/-- What the reader takes from in front of some bytes, it takes from in front of any others that
end a number. -/
def Detaches {α : Type} (read : Bytes → Reading α) : Prop :=
  ∀ {part rest other : Bytes} {value : α}, startsWithDigit rest = false → EndsNumber other →
    read (part ++ rest) = .ok (value, rest) → read (part ++ other) = .ok (value, other)

section Detaches

variable (significand : Nat) (exponent : Int)

theorem detaches_magnitude : Detaches (magnitude significand exponent) := by
  intro part rest other value hrest hother h
  unfold magnitude at h ⊢
  split at h
  · rw [Except.ok.injEq, Prod.mk.injEq, List.append_left_eq_self] at h
    rw [h.1, h.2, List.nil_append]
  · cases h

theorem length_lt_of_readExponent {bytes : Bytes} {value : Decimal.Binary64}
    (h : readExponent significand exponent bytes = .ok (value, rest)) :
    rest.length < (exponentSign bytes).2.length := by
  have final := @magnitude_shrinks
  have taken := takeExponent_rest_length_le
  have skipped := skipDigits_length_le
  simp only [Shrinks] at final
  unfold readExponent at h
  grind

theorem detaches_readExponent : Detaches (readExponent significand exponent) := by
  intro part rest other value hrest hother h
  have hshorter := length_lt_of_readExponent significand exponent h
  -- The sign and a digit belong to the part, since what is left of the bytes is shorter.
  obtain ⟨byte, left, hleft⟩ : ∃ byte left, (exponentSign part).2 = byte :: left := by
    apply List.exists_cons_of_ne_nil
    intro hnone
    by_cases hpart : part = []
    · have hsign := exponentSign_length_le rest
      rw [hpart, List.nil_append] at hshorter
      omega
    · rw [exponentSign_append hpart, hnone] at hshorter
      simp at hshorter
  have hpart : part ≠ [] := by
    rintro rfl
    cases hleft
  have hmagnitude := detaches_magnitude significand
  unfold readExponent at h ⊢
  rw [exponentSign_append hpart, hleft] at h ⊢
  simp only [List.cons_append, takeExponent_append hrest, takeExponent_append hother.1] at h ⊢
  generalize takeExponent (digitValue byte) left = taken at h ⊢
  obtain ⟨amount, behind⟩ := taken
  by_cases hbyte : isDigit byte = true
  · rw [if_pos hbyte] at h ⊢
    cases amount with
    | some amount => exact hmagnitude _ hrest hother h
    | none =>
      dsimp only at h ⊢
      split at h
      · cases h
      · next hzero =>
        rw [skipDigits_append_of_ends hrest, Except.ok.injEq, Prod.mk.injEq,
          List.append_left_eq_self] at h
        rw [if_neg hzero, skipDigits_append_of_ends hother.1, h.1, h.2, List.nil_append]
  · rw [if_neg hbyte] at h
    cases h

/-- Nothing is taken in front of what does not go on with a number. -/
theorem readEnding_of_startsReal_eq_false {bytes : Bytes} (hbytes : startsReal bytes = false) :
    readEnding significand exponent bytes = magnitude significand exponent bytes := by
  cases bytes with
  | nil => rfl
  | cons byte bytes =>
    simp only [startsReal, List.head?_cons, Option.any_some, Bool.or_eq_false_iff] at hbytes
    rw [readEnding, if_neg (by simp [hbytes.2])]

/-- If nothing is taken at all, it is the magnitude of what has been read before. -/
theorem readEnding_eq_magnitude {value : Decimal.Binary64}
    (h : readEnding significand exponent rest = .ok (value, rest)) :
    readEnding significand exponent rest = magnitude significand exponent rest := by
  cases rest with
  | nil => rfl
  | cons byte rest =>
    rw [readEnding] at h ⊢
    split at h
    · have hshorter := readExponent_shrinks significand exponent h
      simp at hshorter
    · next hmark => rw [if_neg hmark]

theorem detaches_readEnding : Detaches (readEnding significand exponent) := by
  intro part rest other value hrest hother h
  have hmagnitude := @detaches_magnitude significand exponent
  cases part with
  | nil =>
    rw [List.nil_append] at h ⊢
    rw [readEnding_eq_magnitude _ _ h] at h
    rw [readEnding_of_startsReal_eq_false _ _ hother.2]
    exact @hmagnitude [] _ _ _ hrest hother h
  | cons byte part =>
    rw [List.cons_append, readEnding] at h ⊢
    split at h
    · next hmark =>
      rw [if_pos hmark]
      exact detaches_readExponent significand exponent hrest hother h
    · next hmark =>
      rw [if_neg hmark]
      exact @hmagnitude (byte :: part) _ _ _ hrest hother h

theorem detaches_readFraction : Detaches (readFraction significand exponent) := by
  intro part rest other value hrest hother h
  unfold readFraction at h ⊢
  simp only [takeDigits_append_of_ends hrest, takeDigits_append_of_ends hother.1,
    startsWithDigit_append hrest, startsWithDigit_append hother.1,
    skipDigits_append_of_ends hrest, skipDigits_append_of_ends hother.1] at h ⊢
  split at h
  · cases h
  · next hdigits =>
    rw [if_neg hdigits]
    exact detaches_readEnding _ _ hrest hother h

theorem readReal_of_startsReal_eq_false {bytes : Bytes} (hbytes : startsReal bytes = false) :
    readReal significand exponent bytes = magnitude significand exponent bytes := by
  have hending := readEnding_of_startsReal_eq_false significand exponent hbytes
  cases bytes with
  | nil => rfl
  | cons byte bytes =>
    simp only [startsReal, List.head?_cons, Option.any_some, Bool.or_eq_false_iff] at hbytes
    rw [readReal, if_neg (by simpa using hbytes.1), hending]

/-- What goes on with a number is not left in place. -/
theorem startsReal_eq_false_of_readReal {value : Decimal.Binary64}
    (h : readReal significand exponent rest = .ok (value, rest)) : startsReal rest = false := by
  cases rest with
  | nil => rfl
  | cons byte rest =>
    by_contra hreal
    rw [readReal] at h
    split at h
    · have hshorter := readFraction_shrinks significand exponent h
      simp at hshorter
    · next hpoint =>
      have hmark : isExponentMark byte = true := by simpa [startsReal, hpoint] using hreal
      rw [readEnding, if_pos hmark] at h
      have hshorter := readExponent_shrinks significand exponent h
      simp at hshorter

theorem detaches_readReal : Detaches (readReal significand exponent) := by
  intro part rest other value hrest hother h
  cases part with
  | nil =>
    rw [List.nil_append] at h ⊢
    rw [readReal_of_startsReal_eq_false _ _ (startsReal_eq_false_of_readReal _ _ h)] at h
    rw [readReal_of_startsReal_eq_false _ _ hother.2]
    exact @detaches_magnitude significand exponent [] _ _ _ hrest hother h
  | cons byte part =>
    rw [List.cons_append, readReal] at h ⊢
    split at h
    · next hpoint =>
      rw [if_pos hpoint]
      exact detaches_readFraction significand exponent hrest hother h
    · next hpoint =>
      rw [if_neg hpoint]
      exact @detaches_readEnding significand exponent (byte :: part) _ _ _ hrest hother h

end Detaches

theorem startsReal_eq_false_of_classify {negative : Bool} {significand places : Nat}
    {number : Number} (h : classify negative significand places rest = .ok (number, rest)) :
    startsReal rest = false := by
  unfold classify at h
  split at h
  · next settled hsettled =>
    by_contra hreal
    rw [Bool.not_eq_false] at hreal
    simp [hreal] at hsettled
  · split at h
    · cases h
    · next hread =>
      rw [Except.ok.injEq, Prod.mk.injEq] at h
      rw [h.2] at hread
      exact startsReal_eq_false_of_readReal _ _ hread

theorem detaches_classify (negative : Bool) (significand places : Nat) :
    Detaches (classify negative significand places) := by
  intro part rest other number hrest hother h
  -- Both texts go on with a number behind the same digits, or neither does.
  have hsame : startsReal (part ++ rest) = startsReal (part ++ other) := by
    cases part with
    | cons byte part => rfl
    | nil => exact (startsReal_eq_false_of_classify h).trans hother.2.symm
  unfold classify at h ⊢
  rw [← hsame]
  split at h
  · rw [Except.ok.injEq, Prod.mk.injEq, List.append_left_eq_self] at h
    rw [h.1, h.2, List.nil_append]
  · split at h
    · cases h
    · next hread =>
      rw [Except.ok.injEq, Prod.mk.injEq] at h
      rw [h.2] at hread
      rw [detaches_readReal _ _ hrest hother hread]
      rw [← h.1]

theorem detaches_readNumber (negative : Bool) : Detaches (readNumber negative) := by
  intro part rest other number hrest hother h
  cases part with
  | nil =>
    have hshorter := readNumber_consumes negative h
    simp at hshorter
  | cons byte part =>
    rw [List.cons_append, readNumber] at h ⊢
    split at h
    · next hzero =>
      rw [if_pos hzero]
      rw [startsWithDigit_append hrest] at h
      rw [startsWithDigit_append hother.1]
      split at h
      · cases h
      · next hdigit =>
        rw [if_neg hdigit]
        exact detaches_classify _ _ _ hrest hother h
    next hzero =>
    rw [if_neg hzero]
    split at h
    · next hbyte =>
      rw [if_pos hbyte]
      simp only [takeDigits_append_of_ends hrest, takeDigits_append_of_ends hother.1,
        skipDigits_append_of_ends hrest, skipDigits_append_of_ends hother.1,
        List.length_append, Nat.add_sub_add_right] at h ⊢
      exact detaches_classify _ _ _ hrest hother h
    · cases h

/-! ### Kept numbers -/

theorem startsWithDigit_of_skipReal {bytes : Bytes} (hbytes : startsWithDigit bytes = false)
    (h : skipReal bytes = .ok ((), rest)) : startsWithDigit rest = false := by
  have hskipped := startsWithDigit_skipDigits
  unfold skipReal skipEnding skipExponent at h
  grind

theorem startsWithDigit_of_skipNumber {bytes : Bytes} (h : skipNumber bytes = .ok ((), rest)) :
    startsWithDigit rest = false := by
  have hskipped := startsWithDigit_skipDigits
  have hreal := @startsWithDigit_of_skipReal rest
  unfold skipNumber at h
  grind

theorem skipNumber_of_readNumber {negative : Bool} {bytes : Bytes} {number : Number}
    (h : readNumber negative bytes = .ok (number, rest)) : skipNumber bytes = .ok ((), rest) := by
  have halike := alike_number negative bytes
  rw [h] at halike
  exact halike.skipped

/-! ### Kept scalars -/

/-- The spellings of a scalar that is kept. A number is not too large if it is kept by the reader
of numbers. -/
inductive SpellsScalar : Scalar → Bytes → Prop
  | null : SpellsScalar .null (asciiBytes "null")
  | yes : SpellsScalar (.boolean true) (asciiBytes "true")
  | no : SpellsScalar (.boolean false) (asciiBytes "false")
  | number {number : Number} {token : Bytes} (htoken : IsNumber token)
      (hkept : readScalar token = .ok (.number number, [])) : SpellsScalar (.number number) token
  | text {text : String} {token : Bytes} (htoken : SpellsText text token) :
      SpellsScalar (.text text) token

theorem readWord_iff {letters : String} {word scalar : Scalar} {bytes : Bytes} :
    readScalar.readWord letters word bytes = .ok (scalar, rest) ↔
      word = scalar ∧ bytes = asciiBytes letters ++ rest := by
  have hletters := @readLetters_iff bytes rest (asciiBytes letters)
  unfold readScalar.readWord
  grind

theorem readAmount_iff {negative : Bool} {scalar : Scalar} {bytes : Bytes} :
    readScalar.readAmount negative bytes = .ok (scalar, rest) ↔
      ∃ number, readNumber negative bytes = .ok (number, rest) ∧ scalar = .number number := by
  unfold readScalar.readAmount
  grind

/-- A kept number can stand in front of anything that ends it. -/
theorem readScalar_number_append {number : Number} (hrest : startsWithDigit rest = false)
    (hother : EndsNumber other) (h : readScalar (part ++ rest) = .ok (.number number, rest)) :
    readScalar (part ++ other) = .ok (.number number, other) := by
  cases part with
  | nil =>
    have hshorter := readScalar_consumes h
    simp at hshorter
  | cons byte part =>
    rw [List.cons_append, readScalar] at h ⊢
    split_ifs at h ⊢ with hnull htrue hfalse hminus hdigit hquote
    · cases (readWord_iff.mp h).1
    · cases (readWord_iff.mp h).1
    · cases (readWord_iff.mp h).1
    · obtain ⟨_, hread, hnumber⟩ := readAmount_iff.mp h
      exact readAmount_iff.mpr ⟨_, detaches_readNumber true hrest hother hread, hnumber⟩
    · obtain ⟨_, hread, hnumber⟩ := readAmount_iff.mp h
      exact readAmount_iff.mpr
        ⟨_, @detaches_readNumber false (byte :: part) _ _ _ hrest hother hread, hnumber⟩
    · split at h <;> cases h

/-- A number that is kept is spelled by its sign and what is read behind that. -/
theorem spellsScalar_of_readNumber {negative : Bool} {sign others : Bytes} {number : Number}
    (hsign : IsSign ['-'] sign) (hread : readNumber negative others = .ok (number, rest))
    (h : readScalar (sign ++ others) = .ok (.number number, rest)) :
    ∃ token, SpellsScalar (.number number) token ∧ sign ++ others = token ++ rest := by
  have hskip := skipNumber_of_readNumber hread
  obtain ⟨digits, fraction, exponent, hdigits, hfraction, hexponent, rfl⟩ :=
    exists_of_skipNumber hskip
  have hbytes : sign ++ (digits ++ (fraction ++ (exponent ++ rest))) =
      sign ++ (digits ++ (fraction ++ exponent)) ++ rest := by simp
  rw [hbytes] at h ⊢
  refine ⟨_, .number (.parts hsign hdigits hfraction hexponent) ?_, rfl⟩
  have hend := @readScalar_number_append _ rest [] _ (startsWithDigit_of_skipNumber hskip)
    ⟨rfl, rfl⟩ h
  rwa [List.append_nil] at hend

theorem exists_of_readScalar {bytes : Bytes} {scalar : Scalar}
    (h : readScalar bytes = .ok (scalar, rest)) :
    ∃ token, SpellsScalar scalar token ∧ bytes = token ++ rest := by
  cases bytes with
  | nil => cases h
  | cons byte others =>
    have hwhole := h
    rw [readScalar] at h
    split_ifs at h with hnull htrue hfalse hminus hdigit hquote
    · obtain ⟨rfl, rfl⟩ := readWord_iff.mp h
      exact ⟨_, .null, by rw [hnull]; rfl⟩
    · obtain ⟨rfl, rfl⟩ := readWord_iff.mp h
      exact ⟨_, .yes, by rw [htrue]; rfl⟩
    · obtain ⟨rfl, rfl⟩ := readWord_iff.mp h
      exact ⟨_, .no, by rw [hfalse]; rfl⟩
    · obtain ⟨number, hread, rfl⟩ := readAmount_iff.mp h
      rw [hminus] at hwhole ⊢
      exact spellsScalar_of_readNumber (Or.inr ⟨'-', by simp, rfl⟩) hread hwhole
    · obtain ⟨number, hread, rfl⟩ := readAmount_iff.mp h
      exact spellsScalar_of_readNumber (Or.inl rfl) hread hwhole
    · split at h
      · cases h
      · next text left hread =>
        rw [Except.ok.injEq, Prod.mk.injEq] at h
        obtain ⟨token, htoken, hbytes⟩ := exists_of_readString hread
        exact ⟨token, h.1 ▸ .text htoken, by rw [hquote, hbytes, h.2]⟩

theorem readScalar_append {scalar : Scalar} {token : Bytes} (htoken : SpellsScalar scalar token)
    (hrest : EndsNumber rest) : readScalar (token ++ rest) = .ok (scalar, rest) := by
  have hword : ∀ letters word,
      readScalar.readWord letters word (asciiBytes letters ++ rest) = .ok (word, rest) :=
    fun _ _ ↦ readWord_iff.mpr ⟨rfl, rfl⟩
  cases htoken with
  | null => exact hword "ull" _
  | yes => exact hword "rue" _
  | no => exact hword "alse" _
  | number htoken hkept =>
    refine @readScalar_number_append token [] rest _ rfl hrest ?_
    rwa [List.append_nil]
  | text htoken =>
    obtain ⟨inner, hinner, hread⟩ := htoken.cons_append rest
    rw [hinner, readScalar, if_neg (by decide), if_neg (by decide), if_neg (by decide),
      if_neg (by decide), if_neg (by decide), if_pos rfl, hread]

theorem SpellsScalar.isValue {scalar : Scalar} {token : Bytes} (h : SpellsScalar scalar token) :
    IsValue token := by
  cases h with
  | null => exact .word (by simp)
  | yes => exact .word (by simp)
  | no => exact .word (by simp)
  | number htoken => exact .number htoken
  | text htoken => exact htoken.isValue

end TokenService.Json
