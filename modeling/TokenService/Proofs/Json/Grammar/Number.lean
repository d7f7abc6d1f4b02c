import TokenService.Proofs.Json.Grammar
import TokenService.Proofs.Json.Skip

/-!
# Numbers of the grammar are those that are read

A kept integer is read exactly if it spells the value and nothing behind it could belong to a number
(`readInteger_iff`). A number that nobody wants is passed over part by part: its digits, its
fraction and its exponent. What is passed over is a number (`exists_of_skipNumber`), and a number is
passed over to its end (`skipNumber_append`).
-/

set_option autoImplicit false
set_option relaxedAutoImplicit false

namespace TokenService.Json

variable {bytes rest digits token : Bytes} {byte : UInt8} {value : Int}

/-! ### Digits -/

theorem skipDigits_append (hdigits : ∀ byte ∈ digits, isDigit byte = true)
    (hrest : startsWithDigit rest = false) : skipDigits (digits ++ rest) = rest := by
  rw [skipDigits, List.dropWhile_append_of_pos hdigits, ← skipDigits,
    skipDigits_of_startsWithDigit_eq_false hrest]

theorem exists_digits (bytes : Bytes) :
    ∃ digits, (∀ byte ∈ digits, isDigit byte = true) ∧ bytes = digits ++ skipDigits bytes :=
  ⟨bytes.takeWhile isDigit, fun _ ↦ List.mem_takeWhile_imp, List.takeWhile_append_dropWhile.symm⟩

theorem startsWithDigit_cons (byte : UInt8) (rest : Bytes) :
    startsWithDigit (byte :: rest) = isDigit byte := by
  simp [startsWithDigit]

theorem exists_isDigits (hstart : startsWithDigit bytes = true) :
    ∃ digits, IsDigits digits ∧ bytes = digits ++ skipDigits bytes := by
  obtain ⟨digits, hdigits, hbytes⟩ := exists_digits bytes
  refine ⟨digits, ⟨?_, hdigits⟩, hbytes⟩
  rintro rfl
  rw [hbytes, List.nil_append, startsWithDigit_skipDigits] at hstart
  cases hstart

theorem IsDigits.startsWithDigit_append (h : IsDigits digits) (rest : Bytes) :
    startsWithDigit (digits ++ rest) = true := by
  obtain ⟨hnonempty, hdigits⟩ := h
  obtain ⟨byte, others, rfl⟩ := List.exists_cons_of_ne_nil hnonempty
  rw [List.cons_append, startsWithDigit_cons]
  exact hdigits byte List.mem_cons_self

/-- The first digit of a natural number and the others. There are no others behind a zero. -/
theorem IsNatural.exists_eq_cons (h : IsNatural digits) :
    ∃ byte others, digits = byte :: others ∧ isDigit byte = true ∧
      (∀ other ∈ others, isDigit other = true) ∧ (byte = ascii '0' → others = []) := by
  obtain ⟨⟨hnonempty, hdigits⟩, hzero⟩ := h
  obtain ⟨byte, others, rfl⟩ := List.exists_cons_of_ne_nil hnonempty
  obtain ⟨hbyte, hothers⟩ := List.forall_mem_cons.mp hdigits
  refine ⟨byte, others, rfl, hbyte, hothers, fun hfirst ↦ ?_⟩
  have hnone := hzero (by rw [hfirst]; rfl)
  rw [List.cons.injEq] at hnone
  exact hnone.2

theorem isNatural_zero : IsNatural [ascii '0'] :=
  ⟨⟨by simp, by simp [isDigit]⟩, fun _ ↦ rfl⟩

theorem isNatural_cons (hzero : byte ≠ ascii '0') (hbyte : isDigit byte = true)
    (hdigits : ∀ other ∈ digits, isDigit other = true) : IsNatural (byte :: digits) :=
  ⟨⟨by simp, List.forall_mem_cons.mpr ⟨hbyte, hdigits⟩⟩,
    fun hfirst ↦ absurd (Option.some.inj hfirst) hzero⟩

/-! ### Kept integers -/

theorem exists_of_takeDigits (value : Nat) (bytes : Bytes) :
    ∃ digits, (∀ byte ∈ digits, isDigit byte = true) ∧
      bytes = digits ++ (takeDigits value bytes).rest ∧
        (takeDigits value bytes).value =
          digits.foldl (fun value byte ↦ value * 10 + digitValue byte) value := by
  induction bytes generalizing value with
  | nil => exact ⟨[], List.forall_mem_nil _, rfl, rfl⟩
  | cons byte bytes ih =>
    rw [takeDigits]
    dsimp only
    split
    · next htaken =>
      rw [Bool.and_eq_true] at htaken
      obtain ⟨digits, hdigits, hbytes, hvalue⟩ := ih (value * 10 + digitValue byte)
      exact ⟨byte :: digits, List.forall_mem_cons.mpr ⟨htaken.1, hdigits⟩,
        congrArg (byte :: ·) hbytes, hvalue⟩
    · exact ⟨[], List.forall_mem_nil _, rfl, rfl⟩

section Integers

variable {negative : Bool} {magnitude places : Nat} {number : Number}

/-- An integer is settled by digits alone. -/
theorem exists_of_classify (h : classify negative magnitude places bytes = .ok (number, rest))
    (hnumber : IsInteger number value) :
    places = 0 ∧ startsReal bytes = false ∧ integer? negative magnitude = some number ∧
      bytes = rest := by
  unfold classify at h
  split at h
  · next settled hsettled =>
    rw [Except.ok.injEq, Prod.mk.injEq] at h
    split at hsettled
    · next hplain =>
      rw [Bool.and_eq_true, decide_eq_true_eq, Bool.not_eq_true'] at hplain
      exact ⟨hplain.1, hplain.2, h.1 ▸ hsettled, h.2⟩
    · cases hsettled
  · split at h
    · cases h
    · rw [Except.ok.injEq, Prod.mk.injEq] at h
      rw [← h.1] at hnumber
      cases hnumber

theorem exists_of_readNumber (h : readNumber negative bytes = .ok (number, rest))
    (hnumber : IsInteger number value) :
    ∃ digits, IsNatural digits ∧ bytes = digits ++ rest ∧ EndsNumber rest ∧
      integer? negative (ofDigits digits) = some number := by
  cases bytes with
  | nil => cases h
  | cons byte others =>
    rw [readNumber] at h
    by_cases hzero : byte = ascii '0'
    · rw [if_pos hzero] at h
      split at h
      · cases h
      next hrest =>
      obtain ⟨-, hreal, hinteger, rfl⟩ := exists_of_classify h hnumber
      exact ⟨[ascii '0'], isNatural_zero, by rw [hzero]; rfl,
        ⟨by simpa using hrest, hreal⟩, hinteger⟩
    rw [if_neg hzero] at h
    by_cases hbyte : isDigit byte = true
    · rw [if_pos hbyte] at h
      dsimp only at h
      obtain ⟨digits, hdigits, hothers, hvalue⟩ := exists_of_takeDigits (digitValue byte) others
      obtain ⟨hplaces, hreal, hinteger, hrest⟩ := exists_of_classify h hnumber
      -- No digit is left out, so what is left of them is what is left behind them.
      have hall : skipDigits (takeDigits (digitValue byte) others).rest =
          (takeDigits (digitValue byte) others).rest :=
        (List.dropWhile_suffix isDigit).eq_of_length_le (by rw [← skipDigits]; omega)
      rw [← hrest]
      refine ⟨byte :: digits, isNatural_cons hzero hbyte hdigits, ?_,
        ⟨startsWithDigit_skipDigits _, hreal⟩, ?_⟩
      · rw [hall, List.cons_append, ← hothers]
      · simpa [ofDigits, ← hvalue] using hinteger
    · rw [if_neg hbyte] at h
      cases h

theorem spellsInteger_of_integerOf (hdigits : IsNatural digits)
    (hinteger : integer? negative (ofDigits digits) = some number)
    (h : integerOf number bytes = .ok (value, rest)) :
    SpellsInteger value (if negative then ascii '-' :: digits else digits) := by
  unfold integer? at hinteger
  cases negative with
  | false =>
    rw [if_pos (by decide), Option.some.injEq] at hinteger
    subst hinteger
    rw [integerOf] at h
    split at h
    · next hfits =>
      rw [Except.ok.injEq, Prod.mk.injEq] at h
      exact h.1 ▸ .natural hdigits hfits
    · cases h
  | true =>
    rw [if_neg (by decide)] at hinteger
    split at hinteger
    · cases hinteger
    next hlimits =>
    rw [not_or, Decidable.not_not] at hlimits
    rw [Option.some.injEq] at hinteger
    subst hinteger
    rw [integerOf, Except.ok.injEq, Prod.mk.injEq] at h
    exact h.1 ▸ .negative hdigits hlimits.1 hlimits.2

end Integers

theorem readNumber_append (hdigits : IsNatural digits) {negative : Bool} {number : Number}
    (hlimit : ofDigits digits < significandLimit) (hrest : EndsNumber rest)
    (hnumber : integer? negative (ofDigits digits) = some number) :
    readNumber negative (digits ++ rest) = .ok (number, rest) := by
  obtain ⟨byte, others, rfl, hbyte, hothers, hzero⟩ := hdigits.exists_eq_cons
  exact readNumber_of_digits (List.forall_mem_cons.mpr ⟨hbyte, hothers⟩) hzero hlimit hrest hnumber

theorem readInteger_natural (hdigits : IsNatural digits)
    (hfits : Decimal.Integer.Fits (ofDigits digits)) (hrest : EndsNumber rest) :
    readInteger (digits ++ rest) = .ok (ofDigits digits, rest) := by
  have hlimit : ofDigits digits < significandLimit := by
    have hlimits := hfits
    simp only [Decimal.Integer.Fits, Decimal.Integer.greatest] at hlimits
    rw [significandLimit]
    omega
  have hread : readNumber false (digits ++ rest) = .ok (.natural (ofDigits digits), rest) :=
    readNumber_append hdigits hlimit hrest rfl
  obtain ⟨byte, others, hcons, hbyte, -⟩ := hdigits.exists_eq_cons
  have hminus : byte ≠ ascii '-' := ne_ascii_of_isDigit hbyte (by decide)
  rw [hcons, List.cons_append] at hread ⊢
  rw [readInteger, skipBlanks_cons (isBlank_of_isDigit hbyte)]
  dsimp only
  rw [decide_eq_false hminus, if_neg hminus, hbyte, if_pos (by decide), hread]
  dsimp only
  rw [integerOf, ← hcons, if_pos hfits]

theorem readInteger_negative (hdigits : IsNatural digits) (hnonzero : ofDigits digits ≠ 0)
    (hfits : Decimal.Integer.Fits (-ofDigits digits)) (hrest : EndsNumber rest) :
    readInteger (ascii '-' :: digits ++ rest) = .ok (-ofDigits digits, rest) := by
  have hlimit : ofDigits digits < significandLimit := by
    have hlimits := hfits
    simp only [Decimal.Integer.Fits, Decimal.Integer.least] at hlimits
    rw [significandLimit]
    omega
  have hinteger : integer? true (ofDigits digits) = some (.negative (ofDigits digits)) := by
    rw [integer?, if_neg (by decide), if_neg]
    rw [not_or, Decidable.not_not]
    exact ⟨hnonzero, hfits⟩
  have hread : readNumber true (digits ++ rest) = .ok (.negative (ofDigits digits), rest) :=
    readNumber_append hdigits hlimit hrest hinteger
  rw [List.cons_append, readInteger, skipBlanks_cons (by decide)]
  dsimp only
  rw [decide_eq_true rfl, Bool.true_or, if_pos rfl, if_pos rfl, hread]
  rfl

/-- An integer is read exactly if it is spelled and ends. -/
theorem readInteger_iff : readInteger bytes = .ok (value, rest) ↔
    ∃ blanks token, Blanks blanks ∧ SpellsInteger value token ∧ EndsNumber rest ∧
      bytes = blanks ++ (token ++ rest) := by
  constructor
  · intro h
    unfold readInteger at h
    split at h
    · cases h
    next byte others hstart =>
    obtain ⟨-, blanks, hblanks, rfl⟩ := skipBlanks_eq_cons_iff.mp hstart
    split at h
    · next hfirst =>
      split at h
      · cases h
      next number left hread =>
      obtain ⟨rfl, hnumber⟩ := isInteger_of_integerOf hread h
      obtain ⟨digits, hdigits, hbytes, hends, hinteger⟩ := exists_of_readNumber hread hnumber
      refine ⟨blanks, _, hblanks, spellsInteger_of_integerOf hdigits hinteger h, hends, ?_⟩
      by_cases hminus : byte = ascii '-'
      · rw [if_pos hminus] at hbytes
        rw [decide_eq_true hminus, if_pos rfl, hbytes, hminus, List.cons_append]
      · rw [if_neg hminus] at hbytes
        rw [decide_eq_false hminus, if_neg (by decide), hbytes]
    · cases h
  · rintro ⟨blanks, token, hblanks, htoken, hends, rfl⟩
    have hskip : readInteger (blanks ++ (token ++ rest)) = readInteger (token ++ rest) := by
      unfold readInteger
      rw [skipBlanks_append hblanks]
    rw [hskip]
    cases htoken with
    | natural hdigits hfits => exact readInteger_natural hdigits hfits hends
    | negative hdigits hnonzero hfits => exact readInteger_negative hdigits hnonzero hfits hends

/-! ### Skipped numbers -/

theorem exists_of_skipExponent (h : skipExponent bytes = .ok ((), rest)) :
    ∃ sign digits, IsSign ['+', '-'] sign ∧ IsDigits digits ∧ bytes = sign ++ (digits ++ rest) := by
  unfold skipExponent at h
  split at h
  · cases h
  next negative byte others hsign =>
  split at h
  · next hbyte =>
    rw [Except.ok.injEq, Prod.mk.injEq] at h
    obtain ⟨digits, hdigits, hothers⟩ := exists_digits others
    have hall : IsDigits (byte :: digits) :=
      ⟨by simp, List.forall_mem_cons.mpr ⟨hbyte, hdigits⟩⟩
    rw [h.2] at hothers
    unfold exponentSign at hsign
    split at hsign
    · cases hsign
    next first left =>
    split_ifs at hsign with hminus hplus
    all_goals
      rw [Prod.mk.injEq] at hsign
      obtain ⟨-, hleft⟩ := hsign
    · exact ⟨[ascii '-'], byte :: digits, Or.inr ⟨'-', by simp, rfl⟩, hall,
        by rw [hminus, hleft, hothers]; rfl⟩
    · exact ⟨[ascii '+'], byte :: digits, Or.inr ⟨'+', by simp, rfl⟩, hall,
        by rw [hplus, hleft, hothers]; rfl⟩
    · exact ⟨[], byte :: digits, Or.inl rfl, hall, by rw [hleft, hothers]; rfl⟩
  · cases h

theorem exists_of_skipEnding (h : skipEnding bytes = .ok ((), rest)) :
    ∃ exponent, IsExponent exponent ∧ bytes = exponent ++ rest := by
  have hnone : skipEnding bytes = .ok ((), bytes) →
      ∃ exponent, IsExponent exponent ∧ bytes = exponent ++ rest := by
    intro hplain
    rw [hplain, Except.ok.injEq, Prod.mk.injEq] at h
    exact ⟨[], .none, h.2⟩
  cases bytes with
  | nil => exact hnone rfl
  | cons byte others =>
    by_cases hmark : isExponentMark byte = true
    · rw [skipEnding, if_pos hmark] at h
      obtain ⟨sign, digits, hsign, hdigits, rfl⟩ := exists_of_skipExponent h
      simp only [isExponentMark, Bool.or_eq_true, decide_eq_true_eq] at hmark
      exact ⟨byte :: (sign ++ digits), .digits hmark hsign hdigits, by simp⟩
    · exact hnone (by rw [skipEnding, if_neg hmark])

theorem exists_of_skipReal (h : skipReal bytes = .ok ((), rest)) :
    ∃ fraction exponent, IsFraction fraction ∧ IsExponent exponent ∧
      bytes = fraction ++ (exponent ++ rest) := by
  have hnone : skipReal bytes = skipEnding bytes → ∃ fraction exponent,
      IsFraction fraction ∧ IsExponent exponent ∧ bytes = fraction ++ (exponent ++ rest) := by
    intro hplain
    obtain ⟨exponent, hexponent, hbytes⟩ := exists_of_skipEnding (hplain ▸ h)
    exact ⟨[], exponent, .none, hexponent, hbytes⟩
  cases bytes with
  | nil => exact hnone rfl
  | cons byte others =>
    by_cases hpoint : byte = point
    · rw [skipReal, if_pos hpoint] at h
      split at h
      · next hstart =>
        obtain ⟨digits, hdigits, hothers⟩ := exists_isDigits hstart
        obtain ⟨exponent, hexponent, hbehind⟩ := exists_of_skipEnding h
        exact ⟨point :: digits, exponent, .digits hdigits, hexponent,
          by rw [hpoint, hothers, hbehind]; rfl⟩
      · cases h
    · exact hnone (by rw [skipReal, if_neg hpoint])

/-- What is passed over from behind a sign is a number without its sign. -/
theorem exists_of_skipNumber (h : skipNumber bytes = .ok ((), rest)) :
    ∃ digits fraction exponent, IsNatural digits ∧ IsFraction fraction ∧ IsExponent exponent ∧
      bytes = digits ++ (fraction ++ (exponent ++ rest)) := by
  cases bytes with
  | nil => cases h
  | cons byte others =>
    rw [skipNumber] at h
    by_cases hzero : byte = ascii '0'
    · rw [if_pos hzero] at h
      split at h
      · cases h
      obtain ⟨fraction, exponent, hfraction, hexponent, rfl⟩ := exists_of_skipReal h
      exact ⟨[ascii '0'], fraction, exponent, isNatural_zero, hfraction, hexponent,
        by rw [hzero]; rfl⟩
    rw [if_neg hzero] at h
    by_cases hbyte : isDigit byte = true
    · rw [if_pos hbyte] at h
      obtain ⟨digits, hdigits, hothers⟩ := exists_digits others
      obtain ⟨fraction, exponent, hfraction, hexponent, hbehind⟩ := exists_of_skipReal h
      exact ⟨byte :: digits, fraction, exponent, isNatural_cons hzero hbyte hdigits, hfraction,
        hexponent, by rw [hothers, hbehind]; rfl⟩
    · rw [if_neg hbyte] at h
      cases h

section Append

variable {sign fraction exponent : Bytes} (hrest : EndsNumber rest)
include hrest

theorem skipExponent_append (hsign : IsSign ['+', '-'] sign) (hdigits : IsDigits digits) :
    skipExponent (sign ++ (digits ++ rest)) = .ok ((), rest) := by
  obtain ⟨hnonempty, hall⟩ := hdigits
  obtain ⟨byte, others, rfl⟩ := List.exists_cons_of_ne_nil hnonempty
  obtain ⟨hbyte, hothers⟩ := List.forall_mem_cons.mp hall
  have hplain : exponentSign (byte :: (others ++ rest)) = (false, byte :: (others ++ rest)) := by
    rw [exponentSign, if_neg (ne_ascii_of_isDigit hbyte (by decide)),
      if_neg (ne_ascii_of_isDigit hbyte (by decide))]
  have hskip : ∀ negative,
      exponentSign (sign ++ (byte :: others ++ rest)) = (negative, byte :: (others ++ rest)) →
        skipExponent (sign ++ (byte :: others ++ rest)) = .ok ((), rest) := by
    intro negative h
    rw [skipExponent, h]
    dsimp only
    rw [if_pos hbyte, skipDigits_append hothers hrest.1]
  rcases hsign with rfl | ⟨mark, hmark, rfl⟩
  · exact hskip false hplain
  · simp only [List.mem_cons, List.not_mem_nil, or_false] at hmark
    rcases hmark with rfl | rfl
    · exact hskip false rfl
    · exact hskip true rfl

theorem skipEnding_append (hexponent : IsExponent exponent) :
    skipEnding (exponent ++ rest) = .ok ((), rest) := by
  cases hexponent with
  | none =>
    obtain ⟨-, hreal⟩ := hrest
    cases rest with
    | nil => rfl
    | cons byte others =>
      simp only [startsReal, List.head?_cons, Option.any_some, Bool.or_eq_false_iff] at hreal
      rw [List.nil_append, skipEnding, if_neg (by simp [hreal.2])]
  | @digits mark sign digits hmark hsign hdigits =>
    have hbyte : isExponentMark mark = true := by simpa [isExponentMark] using hmark
    rw [List.cons_append, List.append_assoc, skipEnding, if_pos hbyte]
    exact skipExponent_append hrest hsign hdigits

theorem startsWithDigit_exponent (hexponent : IsExponent exponent) :
    startsWithDigit (exponent ++ rest) = false := by
  cases hexponent with
  | none => exact hrest.1
  | digits hmark =>
    rw [List.cons_append, startsWithDigit_cons]
    rcases hmark with rfl | rfl <;> decide

theorem startsWithDigit_fraction (hfraction : IsFraction fraction)
    (hexponent : IsExponent exponent) :
    startsWithDigit (fraction ++ (exponent ++ rest)) = false := by
  cases hfraction with
  | none =>
    rw [List.nil_append]
    exact startsWithDigit_exponent hrest hexponent
  | digits => rfl

theorem skipReal_append (hfraction : IsFraction fraction) (hexponent : IsExponent exponent) :
    skipReal (fraction ++ (exponent ++ rest)) = .ok ((), rest) := by
  cases hfraction with
  | none =>
    have hending := skipEnding_append hrest hexponent
    cases hexponent with
    | none => exact skipReal_of_startsReal_eq_false hrest.2
    | @digits mark sign digits hmark =>
      have hpoint : mark ≠ point := by
        rcases hmark with rfl | rfl <;> decide
      rw [List.cons_append] at hending
      rw [List.nil_append, List.cons_append, skipReal, if_neg hpoint, hending]
  | digits hdigits =>
    rw [List.cons_append, skipReal, if_pos rfl, if_pos (hdigits.startsWithDigit_append _),
      skipDigits_append hdigits.2 (startsWithDigit_exponent hrest hexponent)]
    exact skipEnding_append hrest hexponent

/-- A number is passed over to its end. -/
theorem skipNumber_append (hdigits : IsNatural digits) (hfraction : IsFraction fraction)
    (hexponent : IsExponent exponent) :
    skipNumber (digits ++ (fraction ++ (exponent ++ rest))) = .ok ((), rest) := by
  have hends := startsWithDigit_fraction hrest hfraction hexponent
  have hreal := skipReal_append hrest hfraction hexponent
  obtain ⟨byte, others, rfl, hbyte, hothers, hzero⟩ := hdigits.exists_eq_cons
  rw [List.cons_append, skipNumber]
  by_cases hfirst : byte = ascii '0'
  · rw [if_pos hfirst, hzero hfirst, List.nil_append, if_neg (by simp [hends]), hreal]
  · rw [if_neg hfirst, if_pos hbyte, skipDigits_append hothers hends, hreal]

end Append

/-! ### In front of other parts -/

theorem EndsNumber.of_blanks {blanks : Bytes} (hrest : EndsNumber rest) (hblanks : Blanks blanks) :
    EndsNumber (blanks ++ rest) := by
  cases blanks with
  | nil => exact hrest
  | cons byte blanks =>
    have hblank := hblanks byte List.mem_cons_self
    simp only [isBlank, Bool.or_eq_true, decide_eq_true_eq] at hblank
    rcases hblank with ((rfl | rfl) | rfl) | rfl <;> exact ⟨rfl, rfl⟩

/-- A number in front of more parts or of the bracket behind them has ended. -/
theorem Separated.endsNumber {parts : List Bytes} {inner : Bytes}
    (hinner : Separated false parts inner) (hrest : EndsNumber rest) :
    EndsNumber (inner ++ rest) := by
  cases hinner with
  | nil hblanks => exact hrest.of_blanks hblanks
  | cons hfront _ =>
    cases hfront with
    | later hbefore _ =>
      simp only [List.append_assoc, List.cons_append]
      exact EndsNumber.of_blanks ⟨rfl, rfl⟩ hbefore

end TokenService.Json
