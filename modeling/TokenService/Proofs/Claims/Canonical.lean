import TokenService.Proofs.Claims.Grammar

/-!
# The canonical text of claims

Of all the texts that hold some claims one is canonical, the written form. Whatever text claims were
read from, their expiry is within 64 bits (`fits_of_parse`), and so their written form holds them
again (`canonical_round_trip`).
-/

set_option autoImplicit false
set_option relaxedAutoImplicit false

namespace TokenService.Claims

open Json Text.Utf8

/-- The written form of the claims that a text holds, or what is wrong with the text. -/
def canonical (text : Bytes) : Except Diagnostic Bytes :=
  match parse text with
  | .error diagnostic => .error diagnostic
  | .ok claims => .ok (encode claims.text)

variable {claims : Claims} {text form : Bytes}

theorem canonical_eq_ok_iff :
    canonical text = .ok form ↔ ∃ claims, parse text = .ok claims ∧ encode claims.text = form := by
  unfold canonical
  split
  · next hparse => simp [hparse]
  · next hparse => simp [hparse]

/-- Claims that were read have an expiry within 64 bits. -/
theorem fits_of_parse (h : parse text = .ok claims) : Decimal.Integer.Fits claims.expiry := by
  have hexpiry : ∃ token, SpellsInteger claims.expiry token := by
    obtain ⟨before, token, after, -, -, htoken, -⟩ := spells_of_parse h
    cases htoken with
    | object hvalues => exact ⟨_, hvalues.expiry⟩
    | list hvalues => exact ⟨_, hvalues.expiry⟩
  obtain ⟨token, hexpiry⟩ := hexpiry
  generalize claims.expiry = expiry at hexpiry
  cases hexpiry with
  | natural _ hfits => exact hfits
  | negative _ _ hfits => exact hfits

theorem parse_encode_text (h : parse text = .ok claims) :
    parse (encode claims.text) = .ok claims :=
  parse_text (fits_of_parse h)

theorem canonical_of_canonical (h : canonical text = .ok form) : canonical form = .ok form := by
  obtain ⟨claims, hclaims, rfl⟩ := canonical_eq_ok_iff.mp h
  exact canonical_eq_ok_iff.mpr ⟨claims, parse_encode_text hclaims, rfl⟩

theorem canonical_eq_iff {first second : Bytes} (hfirst : parse first = .ok claims) :
    canonical second = canonical first ↔ parse second = .ok claims := by
  rw [canonical_eq_ok_iff.mpr ⟨claims, hfirst, rfl⟩, canonical_eq_ok_iff]
  constructor
  · rintro ⟨other, hother, hsame⟩
    have hread := parse_encode_text hother
    rw [hsame, parse_encode_text hfirst] at hread
    rw [hother, hread]
  · intro hsecond
    exact ⟨claims, hsecond, rfl⟩

/-- Claims that fit are read back from their written form, and so are the claims that any text
holds. The written form is its own written form, and the texts that share it are those that hold the
same claims. -/
theorem canonical_round_trip :
    (∀ claims : Claims, Decimal.Integer.Fits claims.expiry →
      parse (encode claims.text) = .ok claims) ∧
    (∀ (text : Bytes) (claims : Claims), parse text = .ok claims →
      parse (encode claims.text) = .ok claims) ∧
    (∀ text form : Bytes, canonical text = .ok form → canonical form = .ok form) ∧
    ∀ (first second : Bytes) (claims : Claims), parse first = .ok claims →
      (canonical second = canonical first ↔ parse second = .ok claims) := by
  refine ⟨?_, ?_, ?_, ?_⟩
  · intro claims hfits
    exact parse_text hfits
  · intro text claims hclaims
    exact parse_encode_text hclaims
  · intro text form hform
    exact canonical_of_canonical hform
  · intro first second claims hfirst
    exact canonical_eq_iff hfirst

/-- A list with escapes, and an object in another order with a member that nobody wants. -/
theorem canonical_round_trip_respelled :
    let claims : Claims := ⟨"\x00\"A😀", -9223372036854775808, ["\n", ""]⟩
    let first := encode (" [\"\\u0000\\\"\\u0041\\ud83d\\ude00\" ," ++
      "-9223372036854775808,[\"\\n\",\"\"]]\t")
    let second := encode ("\x7b\"channels\":[ \"\\u000A\", \"\"],\"\":\x7b\"\":[1e999]\x7d," ++
      "\"\\u0065xp\":-9223372036854775808,\"sub\":\"\\u0000\\\"A😀\"\x7d")
    parse (encode claims.text) = .ok claims ∧ parse (encode claims.text) = parse first ∧
      canonical second = canonical first ∧
        canonical (encode claims.text) = .ok (encode claims.text) := by
  intro claims first second
  have hfirst : parse first = .ok claims := by decide +kernel
  have hsecond : parse second = .ok claims := by decide +kernel
  have hform : canonical first = .ok (encode claims.text) :=
    canonical_eq_ok_iff.mpr ⟨claims, hfirst, rfl⟩
  obtain ⟨hwritten, hread, hfixed, hshared⟩ := canonical_round_trip
  refine ⟨hwritten claims (by decide), ?_, (hshared first second claims hfirst).mpr hsecond,
    hfixed first (encode claims.text) hform⟩
  rw [hread first claims hfirst, hfirst]

end TokenService.Claims
