import TokenService.Decimal.Integer

/-!
# The grammar of integers

Which characters spell an integer (`Spells`), whatever a reader makes of them: one digit or more, as
many as there may be, with at most one sign in front. The digits of the library (`Char.isDigit`) are
those of ASCII, and what they stand for is `Nat.ofDigitChars`. An integer is read exactly from its
spellings (`parse?_eq_some_iff`), and within the limits of 64 bits exactly from those of an integer
that fits them (`parseWithin?_eq_some_iff`). Natural numbers are written as the library writes them
(`digits_eq_toDigits`, `text_natCast`).
-/

set_option autoImplicit false
set_option relaxedAutoImplicit false

namespace TokenService.Decimal.Integer

variable {characters : List Char} {value : Int}

/-- One digit or more. -/
structure AreDigits (characters : List Char) : Prop where
  nonempty : characters ≠ []
  areDigits : ∀ character ∈ characters, character.isDigit = true

/-- The characters that spell an integer. -/
inductive Spells : Int → List Char → Prop
  | bare {digits : List Char} (hdigits : AreDigits digits) :
      Spells (Nat.ofDigitChars 10 digits 0) digits
  | plus {digits : List Char} (hdigits : AreDigits digits) :
      Spells (Nat.ofDigitChars 10 digits 0) ('+' :: digits)
  | minus {digits : List Char} (hdigits : AreDigits digits) :
      Spells (-Nat.ofDigitChars 10 digits 0) ('-' :: digits)

/-! ### Digits -/

theorem digitValue?_of_isDigit {character : Char} (h : character.isDigit = true) :
    digitValue? character = some (character.toNat - '0'.toNat) :=
  if_pos (Char.isDigit_iff_toNat.mp h)

theorem digitValue?_of_isDigit_eq_false {character : Char} (h : character.isDigit = false) :
    digitValue? character = none :=
  if_neg fun hrange ↦ absurd (Char.isDigit_iff_toNat.mpr hrange) (Bool.not_eq_true _ ▸ h)

/-- Digits are appended to a number one after another, and nothing else is. -/
theorem foldlM_push_eq_some_iff {start number : Nat} :
    characters.foldlM push start = some number ↔
      (∀ character ∈ characters, character.isDigit = true) ∧
        Nat.ofDigitChars 10 characters start = number := by
  induction characters generalizing start with
  | nil => simp
  | cons character characters ih =>
    rw [List.foldlM_cons, push, List.forall_mem_cons, Nat.ofDigitChars_cons]
    cases hdigit : character.isDigit with
    | false =>
      rw [digitValue?_of_isDigit_eq_false hdigit]
      simp
    | true =>
      rw [digitValue?_of_isDigit hdigit, Option.map_some, Nat.mul_comm 10 start]
      change List.foldlM push (start * 10 + (character.toNat - '0'.toNat)) characters = _ ↔ _
      rw [ih]
      simp

theorem natural?_eq_some_iff {number : Nat} : natural? characters = some number ↔
    AreDigits characters ∧ Nat.ofDigitChars 10 characters 0 = number := by
  cases characters with
  | nil => exact ⟨nofun, fun h ↦ absurd rfl h.1.nonempty⟩
  | cons character others =>
    rw [natural?, foldlM_push_eq_some_iff]
    · exact ⟨fun h ↦ ⟨⟨List.cons_ne_nil _ _, h.1⟩, h.2⟩, fun h ↦ ⟨h.1.areDigits, h.2⟩⟩
    · exact List.cons_ne_nil _ _

/-! ### Signs -/

theorem exists_digits_of_map_natural? {sign : Nat → Int}
    (h : (natural? characters).map sign = some value) :
    AreDigits characters ∧ sign (Nat.ofDigitChars 10 characters 0) = value := by
  obtain ⟨number, hnumber, rfl⟩ := Option.map_eq_some_iff.mp h
  obtain ⟨hdigits, rfl⟩ := natural?_eq_some_iff.mp hnumber
  exact ⟨hdigits, rfl⟩

theorem map_natural?_of_areDigits (hdigits : AreDigits characters) (sign : Nat → Int) :
    (natural? characters).map sign = some (sign (Nat.ofDigitChars 10 characters 0)) :=
  Option.map_eq_some_iff.mpr ⟨_, natural?_eq_some_iff.mpr ⟨hdigits, rfl⟩, rfl⟩

/-- An integer is read exactly from the characters that spell it. -/
theorem parse?_eq_some_iff : parse? characters = some value ↔ Spells value characters := by
  constructor
  · intro h
    unfold parse? at h
    split at h
    · obtain ⟨hdigits, rfl⟩ := exists_digits_of_map_natural? h
      exact .plus hdigits
    · obtain ⟨hdigits, rfl⟩ := exists_digits_of_map_natural? h
      exact .minus hdigits
    · obtain ⟨hdigits, rfl⟩ := exists_digits_of_map_natural? h
      exact .bare hdigits
  · intro h
    cases h with
    | bare hdigits =>
      -- Digits do not begin with a sign.
      rw [parse?, map_natural?_of_areDigits hdigits]
      · rfl
      · rintro others rfl
        exact absurd (hdigits.areDigits '+' List.mem_cons_self) (by decide)
      · rintro others rfl
        exact absurd (hdigits.areDigits '-' List.mem_cons_self) (by decide)
    | plus hdigits => exact map_natural?_of_areDigits hdigits Int.ofNat
    | minus hdigits => exact map_natural?_of_areDigits hdigits fun number ↦ -Int.ofNat number

/-- No characters spell two integers. -/
theorem Spells.unique {other : Int} (h : Spells value characters)
    (hother : Spells other characters) : value = other :=
  Option.some.inj ((parse?_eq_some_iff.mpr h).symm.trans (parse?_eq_some_iff.mpr hother))

/-! ### Limits -/

theorem within?_eq_some_iff {other : Int} :
    within? value = some other ↔ value = other ∧ Fits value := by
  rw [within?]
  split
  · next hfits => simp [hfits]
  · next hfits => simp [hfits]

theorem parseWithin?_eq_some_iff :
    parseWithin? characters = some value ↔ Spells value characters ∧ Fits value := by
  rw [parseWithin?, Option.bind_eq_some_iff]
  constructor
  · rintro ⟨other, hother, hwithin⟩
    obtain ⟨rfl, hfits⟩ := within?_eq_some_iff.mp hwithin
    exact ⟨parse?_eq_some_iff.mp hother, hfits⟩
  · rintro ⟨hspells, hfits⟩
    exact ⟨value, parse?_eq_some_iff.mpr hspells, within?_eq_some_iff.mpr ⟨rfl, hfits⟩⟩

/-! ### Written numbers -/

theorem digit_eq_digitChar : ∀ value < 10, digit value = Nat.digitChar value := by
  decide

/-- A natural number is written with the digits of the library. -/
theorem digits_eq_toDigits (value : Nat) : digits value = Nat.toDigits 10 value := by
  fun_induction digits value with
  | case1 value hsmall => rw [Nat.toDigits_of_lt_base hsmall, digit_eq_digitChar value hsmall]
  | case2 value hlarge ih =>
    rw [Nat.toDigits_of_base_le (by decide) (Nat.not_lt.mp hlarge), ih,
      digit_eq_digitChar _ (Nat.mod_lt _ (by decide))]

theorem text_natCast (value : Nat) : text value = value.repr :=
  congrArg String.ofList (digits_eq_toDigits value)

end TokenService.Decimal.Integer
