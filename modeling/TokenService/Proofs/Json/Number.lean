import Mathlib.Tactic.ByContra
import TokenService.Json.Keep
import TokenService.Proofs.Json.Reading
import TokenService.Proofs.Text.Utf8

/-!
# Integers in JSON texts read back

An integer is read from its digits one after another. As long as the number they make fits 64 bits
nothing is lost, so the written form of an integer within the limits reads as this integer
(`readInteger_render`), whatever follows it that cannot be part of a number.
-/

set_option autoImplicit false
set_option relaxedAutoImplicit false

namespace TokenService.Json

open Text.Utf8 (encodeChar encodeChar_of_lt toNat_ofNat_of_lt)

/-! ### Digits -/

/-- The number that some digits make. -/
def ofDigits (digits : Bytes) : Nat :=
  digits.foldl (fun value byte ↦ value * 10 + digitValue byte) 0

/-- Bytes behind which a number cannot go on. -/
def EndsNumber (rest : Bytes) : Prop :=
  startsWithDigit rest = false ∧ startsReal rest = false

theorem ofDigits_append_singleton (digits : Bytes) (byte : UInt8) :
    ofDigits (digits ++ [byte]) = ofDigits digits * 10 + digitValue byte := by
  rw [ofDigits, ofDigits, List.foldl_append, List.foldl_cons, List.foldl_nil]

theorem le_foldl_digits (value : Nat) (digits : Bytes) :
    value ≤ digits.foldl (fun value byte ↦ value * 10 + digitValue byte) value := by
  induction digits generalizing value with
  | nil => exact Nat.le_refl value
  | cons byte digits ih =>
    have hnext := ih (value * 10 + digitValue byte)
    rw [List.foldl_cons]
    omega

theorem takeDigits_of_startsWithDigit_eq_false (value : Nat) {rest : Bytes}
    (hrest : startsWithDigit rest = false) : takeDigits value rest = ⟨value, 0, rest⟩ := by
  cases rest with
  | nil => rfl
  | cons byte rest =>
    have hbyte : isDigit byte = false := by simpa [startsWithDigit] using hrest
    simp [takeDigits, hbyte]

theorem takeDigits_append {value : Nat} {digits rest : Bytes}
    (hdigits : ∀ byte ∈ digits, isDigit byte = true) (hrest : startsWithDigit rest = false)
    (hlimit : digits.foldl (fun value byte ↦ value * 10 + digitValue byte) value <
      significandLimit) :
    takeDigits value (digits ++ rest) =
      ⟨digits.foldl (fun value byte ↦ value * 10 + digitValue byte) value, digits.length,
        rest⟩ := by
  induction digits generalizing value with
  | nil => exact takeDigits_of_startsWithDigit_eq_false value hrest
  | cons byte digits ih =>
    rw [List.foldl_cons] at hlimit ⊢
    have hnext := le_foldl_digits (value * 10 + digitValue byte) digits
    have hbyte := hdigits byte List.mem_cons_self
    have hothers := ih (fun other hother ↦ hdigits other (List.mem_cons_of_mem _ hother)) hlimit
    have hsmall : value * 10 + digitValue byte < significandLimit := by omega
    rw [List.cons_append, takeDigits]
    simp only [hbyte, hsmall, decide_true, Bool.and_self, if_true, hothers, List.length_cons]

theorem skipDigits_of_startsWithDigit_eq_false {rest : Bytes}
    (hrest : startsWithDigit rest = false) : skipDigits rest = rest := by
  cases rest with
  | nil => rfl
  | cons byte rest =>
    have hbyte : isDigit byte = false := by simpa [startsWithDigit] using hrest
    rw [skipDigits, List.dropWhile_cons_of_neg (by simp [hbyte])]

/-- A number without a fraction or an exponent, of digits that fit 64 bits and without leading
zeros. -/
theorem readNumber_of_digits {negative : Bool} {byte : UInt8} {digits rest : Bytes}
    (hdigits : ∀ other ∈ byte :: digits, isDigit other = true)
    (hzero : byte = ascii '0' → digits = []) (hlimit : ofDigits (byte :: digits) < significandLimit)
    (hrest : EndsNumber rest) {number : Number}
    (hnumber : integer? negative (ofDigits (byte :: digits)) = some number) :
    readNumber negative (byte :: digits ++ rest) = .ok (number, rest) := by
  have hbyte := hdigits byte List.mem_cons_self
  have hsettled : classify negative (ofDigits (byte :: digits)) 0 rest = .ok (number, rest) := by
    rw [classify, hrest.2]
    simp only [Bool.not_false, decide_true, Bool.and_self, if_true, hnumber]
  rw [List.cons_append, readNumber]
  by_cases hfirst : byte = ascii '0'
  · have hnone := hzero hfirst
    rw [if_pos hfirst, hnone, List.nil_append, hrest.1]
    rw [hnone, hfirst] at hsettled
    exact hsettled
  · have htaken := @takeDigits_append (digitValue byte) digits rest
      (fun other hother ↦ hdigits other (List.mem_cons_of_mem _ hother)) hrest.1
      (by simpa [ofDigits] using hlimit)
    rw [if_neg hfirst, if_pos hbyte]
    dsimp only
    rw [htaken]
    dsimp only
    rw [skipDigits_of_startsWithDigit_eq_false hrest.1, Nat.sub_self]
    simpa [ofDigits] using hsettled

/-! ### Written integers -/

/-- The bytes of a natural number in decimal. -/
def numeral (value : Nat) : Bytes :=
  (Decimal.Integer.digits value).flatMap encodeChar

theorem encodeChar_digit : ∀ value < 10,
    encodeChar (Decimal.Integer.digit value) = [UInt8.ofNat (0x30 + value)] := by
  decide

theorem isDigit_ofNat {value : Nat} (hvalue : value < 10) :
    isDigit (UInt8.ofNat (0x30 + value)) = true := by
  have hsmall : 0x30 + value ≤ 0x39 := by omega
  rw [isDigit, toNat_ofNat_of_lt (by omega)]
  simp [hsmall]

theorem digitValue_ofNat {value : Nat} (hvalue : value < 10) :
    digitValue (UInt8.ofNat (0x30 + value)) = value := by
  rw [digitValue, toNat_ofNat_of_lt (by omega), Nat.add_sub_cancel_left]

theorem numeral_of_lt {value : Nat} (hvalue : value < 10) :
    numeral value = [UInt8.ofNat (0x30 + value)] := by
  rw [numeral, Decimal.Integer.digits, if_pos hvalue, List.flatMap_singleton,
    encodeChar_digit value hvalue]

theorem numeral_of_le {value : Nat} (hvalue : 10 ≤ value) :
    numeral value = numeral (value / 10) ++ [UInt8.ofNat (0x30 + value % 10)] := by
  rw [numeral, Decimal.Integer.digits, if_neg (by omega), List.flatMap_append,
    List.flatMap_singleton, encodeChar_digit _ (by omega), numeral]

theorem isDigit_of_mem_numeral (value : Nat) : ∀ byte ∈ numeral value, isDigit byte = true := by
  induction value using Nat.strongRecOn with
  | ind value ih =>
    by_cases hvalue : value < 10
    · rw [numeral_of_lt hvalue]
      intro byte hbyte
      rw [List.mem_singleton.mp hbyte]
      exact isDigit_ofNat hvalue
    · rw [numeral_of_le (by omega)]
      intro byte hbyte
      rcases List.mem_append.mp hbyte with hhigh | hlast
      · exact ih (value / 10) (by omega) byte hhigh
      · rw [List.mem_singleton.mp hlast]
        exact isDigit_ofNat (by omega)

theorem ofDigits_numeral (value : Nat) : ofDigits (numeral value) = value := by
  induction value using Nat.strongRecOn with
  | ind value ih =>
    by_cases hvalue : value < 10
    · have hdigit := digitValue_ofNat hvalue
      rw [numeral_of_lt hvalue, ofDigits, List.foldl_cons, List.foldl_nil, hdigit]
      omega
    · rw [numeral_of_le (by omega), ofDigits_append_singleton, ih (value / 10) (by omega),
        digitValue_ofNat (by omega)]
      omega

/-- The first digit of a number is zero only if there is no other. -/
theorem numeral_eq_cons (value : Nat) :
    ∃ byte digits, numeral value = byte :: digits ∧
      (byte = ascii '0' → digits = [] ∧ value = 0) := by
  induction value using Nat.strongRecOn with
  | ind value ih =>
    by_cases hvalue : value < 10
    · refine ⟨_, _, numeral_of_lt hvalue, fun hzero ↦ ⟨rfl, ?_⟩⟩
      have hcode := congrArg UInt8.toNat hzero
      rw [toNat_ofNat_of_lt (by omega)] at hcode
      have hascii : (ascii '0').toNat = 0x30 := rfl
      omega
    · obtain ⟨byte, digits, hhigh, hzero⟩ := ih (value / 10) (by omega)
      refine ⟨byte, digits ++ [UInt8.ofNat (0x30 + value % 10)], ?_, fun hbyte ↦ ?_⟩
      · rw [numeral_of_le (by omega), hhigh, List.cons_append]
      · have hnone := (hzero hbyte).2
        omega

theorem readNumber_numeral {negative : Bool} {value : Nat} {rest : Bytes}
    (hlimit : value < significandLimit) (hrest : EndsNumber rest) {number : Number}
    (hnumber : integer? negative value = some number) :
    readNumber negative (numeral value ++ rest) = .ok (number, rest) := by
  obtain ⟨byte, digits, hwritten, hzero⟩ := numeral_eq_cons value
  have hdigits := isDigit_of_mem_numeral value
  have hvalue := ofDigits_numeral value
  rw [hwritten] at hdigits hvalue ⊢
  exact readNumber_of_digits hdigits (fun hbyte ↦ (hzero hbyte).1) (by rwa [hvalue]) hrest
    (by rwa [hvalue])

theorem isBlank_of_isDigit {byte : UInt8} (hdigit : isDigit byte = true) :
    isBlank byte = false := by
  rw [isDigit, Bool.and_eq_true, decide_eq_true_eq, decide_eq_true_eq] at hdigit
  by_contra hblank
  simp only [isBlank, Bool.not_eq_false, Bool.or_eq_true, decide_eq_true_eq] at hblank
  rcases hblank with ((rfl | rfl) | rfl) | rfl <;> exact absurd hdigit.1 (by decide)

theorem render_of_nonneg {value : Int} (hvalue : 0 ≤ value) :
    (Decimal.Integer.render value).flatMap encodeChar = numeral value.toNat := by
  obtain ⟨natural, rfl⟩ := Int.eq_ofNat_of_zero_le hvalue
  rfl

theorem render_of_neg {value : Int} (hvalue : value < 0) :
    (Decimal.Integer.render value).flatMap encodeChar = ascii '-' :: numeral (-value).toNat := by
  obtain ⟨natural, rfl⟩ := Int.eq_negSucc_of_lt_zero hvalue
  rfl

/-- The written form of an integer within the limits reads as the number of this integer. -/
theorem readInteger_render {value : Int} (hfits : Decimal.Integer.Fits value) {rest : Bytes}
    (hrest : EndsNumber rest) :
    readInteger ((Decimal.Integer.render value).flatMap encodeChar ++ rest) =
      .ok (value, rest) := by
  have hlimits := hfits
  simp only [Decimal.Integer.Fits, Decimal.Integer.least, Decimal.Integer.greatest] at hlimits
  by_cases hsign : 0 ≤ value
  · have hcast : ((value.toNat : Nat) : Int) = value := Int.toNat_of_nonneg hsign
    obtain ⟨byte, digits, hwritten, -⟩ := numeral_eq_cons value.toNat
    have hdigit : isDigit byte = true :=
      isDigit_of_mem_numeral value.toNat byte (by simp [hwritten])
    have hminus : byte ≠ ascii '-' := by
      rintro rfl
      exact absurd hdigit (by decide)
    have hread : readNumber false (numeral value.toNat ++ rest) =
        .ok (.natural value.toNat, rest) :=
      readNumber_numeral (by rw [significandLimit]; omega) hrest rfl
    rw [hwritten, List.cons_append] at hread
    rw [render_of_nonneg hsign, hwritten, List.cons_append, readInteger,
      skipBlanks_cons (isBlank_of_isDigit hdigit)]
    simp only [hdigit, hminus, Bool.or_true, if_true, decide_false, if_false, hread, integerOf,
      hcast, hfits]
  · have hcast : -(((-value).toNat : Nat) : Int) = value := by omega
    have hread : readNumber true (numeral (-value).toNat ++ rest) =
        .ok (.negative (-value).toNat, rest) := by
      refine readNumber_numeral (by rw [significandLimit]; omega) hrest ?_
      rw [integer?, if_neg (by decide), if_neg]
      rw [hcast]
      simp only [hfits, not_true, or_false]
      omega
    rw [render_of_neg (by omega), List.cons_append, readInteger, skipBlanks_cons (by decide)]
    simp only [decide_true, Bool.true_or, if_true, hread, integerOf, hcast]

/-! ### Signs -/

theorem ne_zero_of_integer? {negative : Bool} {magnitude value : Nat}
    (h : integer? negative magnitude = some (.negative value)) : value ≠ 0 := by
  unfold integer? at h
  split at h
  · cases h
  split at h
  · cases h
  · next hnonzero =>
    rw [Option.some.injEq, Number.negative.injEq] at h
    rw [← h]
    exact fun hzero ↦ hnonzero (Or.inl hzero)

theorem ne_zero_of_classify {negative : Bool} {magnitude places : Nat} {bytes rest : Bytes}
    {value : Nat} (h : classify negative magnitude places bytes = .ok (.negative value, rest)) :
    value ≠ 0 := by
  unfold classify at h
  split at h
  · next number hnumber =>
    rw [Except.ok.injEq, Prod.mk.injEq] at h
    rw [h.1] at hnumber
    split at hnumber
    · exact ne_zero_of_integer? hnumber
    · cases hnumber
  · split at h <;> cases h

/-- Minus zero is no integer. -/
theorem ne_zero_of_readNumber {negative : Bool} {bytes rest : Bytes} {value : Nat}
    (h : readNumber negative bytes = .ok (.negative value, rest)) : value ≠ 0 := by
  cases bytes with
  | nil => cases h
  | cons byte others =>
    rw [readNumber] at h
    split at h
    · split at h
      · cases h
      · exact ne_zero_of_classify h
    split at h
    · exact ne_zero_of_classify h
    · cases h

theorem ne_ascii_of_isDigit {byte : UInt8} (hdigit : isDigit byte = true) {character : Char}
    (hnone : isDigit (ascii character) = false) : byte ≠ ascii character := by
  rintro rfl
  rw [hdigit] at hnone
  cases hnone

theorem readScalar_digit {byte : UInt8} (hdigit : isDigit byte = true) (rest : Bytes) :
    readScalar (byte :: rest) = readScalar.readAmount false (byte :: rest) := by
  rw [readScalar, if_neg (ne_ascii_of_isDigit hdigit (by decide)),
    if_neg (ne_ascii_of_isDigit hdigit (by decide)),
    if_neg (ne_ascii_of_isDigit hdigit (by decide)),
    if_neg (ne_ascii_of_isDigit hdigit (by decide)), if_pos hdigit]

/-- The number that an integer is read as. -/
inductive IsInteger : Number → Int → Prop
  | natural (natural : Nat) : IsInteger (.natural natural) natural
  | negative {natural : Nat} (hnonzero : natural ≠ 0) : IsInteger (.negative natural) (-natural)

theorem isInteger_of_integerOf {negative : Bool} {bytes rest left : Bytes} {number : Number}
    {value : Int} (hread : readNumber negative bytes = .ok (number, left))
    (h : integerOf number left = .ok (value, rest)) : left = rest ∧ IsInteger number value := by
  cases number with
  | natural natural =>
    rw [integerOf] at h
    split at h
    · rw [Except.ok.injEq, Prod.mk.injEq] at h
      exact ⟨h.2, h.1 ▸ .natural natural⟩
    · cases h
  | negative natural =>
    rw [integerOf, Except.ok.injEq, Prod.mk.injEq] at h
    exact ⟨h.2, h.1 ▸ .negative (ne_zero_of_readNumber hread)⟩
  | real => cases h

/-- An integer is a scalar. -/
theorem readScalar_of_readInteger {bytes rest : Bytes} {value : Int}
    (h : readInteger bytes = .ok (value, rest)) :
    ∃ byte others number, skipBlanks bytes = byte :: others ∧ byte ≠ ascii '[' ∧
      byte ≠ ascii '\x7b' ∧ readScalar (byte :: others) = .ok (.number number, rest) ∧
      IsInteger number value := by
  unfold readInteger at h
  split at h
  · cases h
  · next byte others hstart =>
    split at h
    · next hfirst =>
      split at h
      · cases h
      · next number left hread =>
        obtain ⟨hrest, hvalue⟩ := isInteger_of_integerOf hread h
        refine ⟨byte, others, number, hstart, ?_, ?_, ?_, hvalue⟩
        · rintro rfl
          exact absurd hfirst (by decide)
        · rintro rfl
          exact absurd hfirst (by decide)
        · by_cases hminus : byte = ascii '-'
          · subst hminus
            rw [if_pos rfl, decide_eq_true rfl] at hread
            show readScalar.readAmount true others = _
            rw [readScalar.readAmount, hread, hrest]
          · rw [if_neg hminus, decide_eq_false hminus] at hread
            rw [decide_eq_false hminus, Bool.false_or] at hfirst
            rw [readScalar_digit hfirst, readScalar.readAmount, hread, hrest]
    · cases h

end TokenService.Json
