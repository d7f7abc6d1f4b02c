import TokenService.Lifetime
import TokenService.Proofs.Decimal.Integer
import TokenService.Proofs.Text.Space

/-!
# What a lifetime comes to

A parameter holds an integer if there is nothing else in its text but blanks around it (`Holds`).
The lifetime is the integer of the one parameter that is used, as seconds or as days
(`resolve_eq_iff`). Days are out of range if their seconds do not fit 64 bits.

Only integers of 64 bits are told from other texts, though. One that does not fit is reported as no
integer at all, where it could have been out of range (`resolve_eq_validation_iff`).
-/

set_option autoImplicit false
set_option relaxedAutoImplicit false

namespace TokenService.Lifetime

open Decimal.Integer (Fits Spells within?_eq_some_iff parseWithin?_eq_some_iff)
open Text.Space (Encloses encloses_trim trim_eq_iff)

variable {lifetime : Lifetime} {result : Except Refusal Int} {name text : String} {number : Int}

/-- The text of an integer, with blanks around it or without. -/
def Holds (text : String) (number : Int) : Prop :=
  ∃ core, Encloses core text.toList ∧ Spells number core

/-- The text of no integer of 64 bits. -/
def HoldsNone (text : String) : Prop :=
  ∀ number, Holds text number → ¬Fits number

/-- Days whose seconds fit 64 bits. -/
def InDays (number : Int) : Prop :=
  -106751991167300 ≤ number ∧ number ≤ 106751991167300

/-- What a lifetime should come to. Days do not count where there are seconds. -/
inductive Resolves : Lifetime → Except Refusal Int → Prop
  | seconds {text : String} {days : Option String} {number : Int} (hholds : Holds text number)
      (hfits : Fits number) : Resolves ⟨some text, days⟩ (.ok number)
  | noSeconds {text : String} {days : Option String} (hnone : HoldsNone text) :
      Resolves ⟨some text, days⟩ (.error (.validation "seconds" text))
  | days {text : String} {number : Int} (hholds : Holds text number) (hrange : InDays number) :
      Resolves ⟨none, some text⟩ (.ok (86400 * number))
  | tooManyDays {text : String} {number : Int} (hholds : Holds text number) (hfits : Fits number)
      (hrange : ¬InDays number) : Resolves ⟨none, some text⟩ (.error (.outOfRange "days"))
  | noDays {text : String} (hnone : HoldsNone text) :
      Resolves ⟨none, some text⟩ (.error (.validation "days" text))
  | neither : Resolves ⟨none, none⟩ (.ok 604800)

/-! ### Parameters -/

theorem holds_iff : Holds text number ↔ Spells number (Text.Space.trim text.toList) := by
  constructor
  · rintro ⟨core, hcore, hspells⟩
    rwa [trim_eq_iff.mpr hcore]
  · exact fun hspells ↦ ⟨_, encloses_trim _, hspells⟩

/-- A text holds one integer at most. -/
theorem Holds.unique {other : Int} (h : Holds text number) (hother : Holds text other) :
    number = other :=
  (holds_iff.mp h).unique (holds_iff.mp hother)

theorem parseWithin?_trim_eq_some_iff :
    Decimal.Integer.parseWithin? (Text.Space.trim text.toList) = some number ↔
      Holds text number ∧ Fits number := by
  rw [parseWithin?_eq_some_iff, holds_iff]

theorem parameter_of_holds (hholds : Holds text number) (hfits : Fits number) :
    parameter name text = .ok number := by
  rw [parameter, parseWithin?_trim_eq_some_iff.mpr ⟨hholds, hfits⟩]

theorem parameter_of_holdsNone (hnone : HoldsNone text) :
    parameter name text = .error (.validation name text) := by
  have hparse : Decimal.Integer.parseWithin? (Text.Space.trim text.toList) = none :=
    Option.eq_none_iff_forall_ne_some.mpr fun number hnumber ↦
      have ⟨hholds, hfits⟩ := parseWithin?_trim_eq_some_iff.mp hnumber
      hnone number hholds hfits
  rw [parameter, hparse]

theorem exists_holds_or_holdsNone (text : String) :
    (∃ number, Holds text number ∧ Fits number) ∨ HoldsNone text := by
  by_cases h : ∃ number, Holds text number ∧ Fits number
  · exact Or.inl h
  · exact Or.inr fun number hholds hfits ↦ h ⟨number, hholds, hfits⟩

/-! ### Days -/

theorem fits_mul_secondsPerDay_iff : Fits (number * secondsPerDay) ↔ InDays number := by
  simp only [Fits, InDays, secondsPerDay, Decimal.Integer.least, Decimal.Integer.greatest]
  omega

theorem InDays.fits (hrange : InDays number) : Fits number := by
  simp only [Fits, InDays, Decimal.Integer.least, Decimal.Integer.greatest] at hrange ⊢
  omega

theorem ofDays_of_inDays (hrange : InDays number) : ofDays number = .ok (86400 * number) := by
  rw [ofDays, Decimal.Integer.multiply?,
    within?_eq_some_iff.mpr ⟨rfl, fits_mul_secondsPerDay_iff.mpr hrange⟩]
  exact congrArg Except.ok (Int.mul_comm number 86400)

theorem ofDays_of_not_inDays (hrange : ¬InDays number) :
    ofDays number = .error (.outOfRange "days") := by
  rw [ofDays, Decimal.Integer.multiply?, Decimal.Integer.within?,
    if_neg (fits_mul_secondsPerDay_iff.not.mpr hrange)]

/-! ### Lifetimes -/

theorem resolve_days_of_holds (hholds : Holds text number) (hfits : Fits number) :
    resolve ⟨none, some text⟩ = ofDays number := by
  unfold resolve
  dsimp only
  rw [parameter_of_holds hholds hfits]

theorem resolve_days_of_holdsNone (hnone : HoldsNone text) :
    resolve ⟨none, some text⟩ = .error (.validation "days" text) := by
  unfold resolve
  dsimp only
  rw [parameter_of_holdsNone hnone]

theorem Resolves.resolve_eq (h : Resolves lifetime result) : lifetime.resolve = result := by
  cases h with
  | seconds hholds hfits => exact parameter_of_holds hholds hfits
  | noSeconds hnone => exact parameter_of_holdsNone hnone
  | days hholds hrange => rw [resolve_days_of_holds hholds hrange.fits, ofDays_of_inDays hrange]
  | tooManyDays hholds hfits hrange =>
    rw [resolve_days_of_holds hholds hfits, ofDays_of_not_inDays hrange]
  | noDays hnone => exact resolve_days_of_holdsNone hnone
  | neither => rfl

theorem exists_resolves (lifetime : Lifetime) : ∃ result, Resolves lifetime result := by
  obtain ⟨_ | seconds, days⟩ := lifetime
  · cases days with
    | none => exact ⟨_, .neither⟩
    | some text =>
      obtain ⟨number, hholds, hfits⟩ | hnone := exists_holds_or_holdsNone text
      · by_cases hrange : InDays number
        · exact ⟨_, .days hholds hrange⟩
        · exact ⟨_, .tooManyDays hholds hfits hrange⟩
      · exact ⟨_, .noDays hnone⟩
  · obtain ⟨number, hholds, hfits⟩ | hnone := exists_holds_or_holdsNone seconds
    · exact ⟨_, .seconds hholds hfits⟩
    · exact ⟨_, .noSeconds hnone⟩

/-- A lifetime comes to what it should, and to nothing else. -/
theorem resolve_eq_iff : lifetime.resolve = result ↔ Resolves lifetime result := by
  constructor
  · rintro rfl
    obtain ⟨result, hresolves⟩ := exists_resolves lifetime
    rwa [hresolves.resolve_eq]
  · exact Resolves.resolve_eq

/-- Seconds decide alone if they are given. A lifetime comes to the integer that the text of the
one parameter in use holds, in seconds, and is refused if the text holds none of 64 bits or the
seconds leave these limits. -/
theorem resolve_reads_integer :
    (∀ seconds days others, resolve ⟨some seconds, days⟩ = resolve ⟨some seconds, others⟩) ∧
      ∀ lifetime result, lifetime.resolve = result ↔ Resolves lifetime result :=
  ⟨fun _ _ _ ↦ rfl, fun _ _ ↦ resolve_eq_iff⟩

example : resolve ⟨none, some "\u3000+00106751991167301\t"⟩ = .error (.outOfRange "days") := by
  decide +kernel

/-! ### Integers that do not fit -/

/-- The parameter that a lifetime uses, and its text. -/
inductive Uses : Lifetime → (name text : String) → Prop
  | seconds {text : String} {days : Option String} : Uses ⟨some text, days⟩ "seconds" text
  | days {text : String} : Uses ⟨none, some text⟩ "days" text

theorem Uses.resolve_of_holds (huses : lifetime.Uses name text) (hholds : Holds text number)
    (hfits : Fits number) :
    (∃ seconds, lifetime.resolve = .ok seconds) ∨ lifetime.resolve = .error (.outOfRange name) := by
  cases huses with
  | seconds => exact Or.inl ⟨number, resolve_eq_iff.mpr (.seconds hholds hfits)⟩
  | days =>
    by_cases hrange : InDays number
    · exact Or.inl ⟨_, resolve_eq_iff.mpr (.days hholds hrange)⟩
    · exact Or.inr (resolve_eq_iff.mpr (.tooManyDays hholds hfits hrange))

/-- A text is reported as no integer exactly if it is in use and holds none of 64 bits. -/
theorem resolve_eq_validation_iff : lifetime.resolve = .error (.validation name text) ↔
    lifetime.Uses name text ∧ HoldsNone text := by
  rw [resolve_eq_iff]
  constructor
  · intro h
    cases h with
    | noSeconds hnone => exact ⟨.seconds, hnone⟩
    | noDays hnone => exact ⟨.days, hnone⟩
  · rintro ⟨huses, hnone⟩
    cases huses with
    | seconds => exact .noSeconds hnone
    | days => exact .noDays hnone

theorem Holds.holdsNone (hholds : Holds text number) (hfits : ¬Fits number) : HoldsNone text :=
  fun _ hother ↦ hholds.unique hother ▸ hfits

/-- A text is reported as no integer exactly if it is in use and holds none of 64 bits. So an
integer in use is told from other texts exactly if it fits these limits: it is then the lifetime or
out of range. -/
theorem resolve_tells_integers (lifetime : Lifetime) (name text : String) :
    (lifetime.resolve = .error (.validation name text) ↔
      lifetime.Uses name text ∧ HoldsNone text) ∧
    (lifetime.Uses name text → ∀ number, Holds text number →
      (((∃ seconds, lifetime.resolve = .ok seconds) ∨
        lifetime.resolve = .error (.outOfRange name)) ↔ Fits number)) := by
  refine ⟨resolve_eq_validation_iff, fun huses number hholds ↦ ?_⟩
  constructor
  · intro hresolve
    -- One integer only is in the text, so beyond the limits there is none within them.
    by_contra hfits
    have hvalidation := resolve_eq_validation_iff.mpr ⟨huses, hholds.holdsNone hfits⟩
    rw [hvalidation] at hresolve
    obtain ⟨seconds, hseconds⟩ | hrange := hresolve
    · cases hseconds
    · cases hrange
  · exact huses.resolve_of_holds hholds

/-- The least integer of 64 bits, written at length, is told from other texts. -/
theorem resolve_tells_integers_least :
    Uses ⟨none, some " -0009223372036854775808\u3000"⟩ "days" " -0009223372036854775808\u3000" ∧
    Holds " -0009223372036854775808\u3000" (-9223372036854775808) ∧
    ((∃ seconds, resolve ⟨none, some " -0009223372036854775808\u3000"⟩ = .ok seconds) ∨
      resolve ⟨none, some " -0009223372036854775808\u3000"⟩ = .error (.outOfRange "days")) := by
  have hleast : Holds " -0009223372036854775808\u3000" (-9223372036854775808) :=
    holds_iff.mpr (Decimal.Integer.parse?_eq_some_iff.mp (by decide +kernel))
  obtain ⟨-, htold⟩ := resolve_tells_integers ⟨none, some " -0009223372036854775808\u3000"⟩ "days"
    " -0009223372036854775808\u3000"
  exact ⟨.days, hleast, (htold .days _ hleast).mpr (by decide)⟩

/-- The least number of seconds beyond 64 bits is an integer, and reported as none. -/
theorem resolve_misreports_integer :
    Uses ⟨some "9223372036854775808", none⟩ "seconds" "9223372036854775808" ∧
    Holds "9223372036854775808" 9223372036854775808 ∧
    resolve ⟨some "9223372036854775808", none⟩ =
      .error (.validation "seconds" "9223372036854775808") :=
  ⟨.seconds, holds_iff.mpr (Decimal.Integer.parse?_eq_some_iff.mp (by decide +kernel)),
    by decide +kernel⟩

end TokenService.Lifetime
