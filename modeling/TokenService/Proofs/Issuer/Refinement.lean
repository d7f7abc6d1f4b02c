import TokenService.Proofs.Issuer.Issued
import TokenService.Proofs.Token.Payload

/-!
# Verifying refines decoding

`verify` and `decode` read a token alike and differ in the expiry only. The expiry that `verify`
checks is a registered claim, read apart from the claims that it gives out, but the two readings of
a payload agree (`expiry_of_authenticate`). So `verify` gives out what `decode` gives out up to the
expiry in it, and of a token that `decode` rejects it says the same, except that a token meant for
an audience may have expired as well (`verify_refines_decode`).
-/

set_option autoImplicit false
set_option relaxedAutoImplicit false

namespace TokenService.Issuer

open Token

variable {issuer : Issuer} {token : String} {claims : Claims} {registered : Registered} {now : Int}

/-- The registered claims of a signed token are those of its claims, an audience apart. -/
theorem registered_of_authenticate (h : issuer.authenticate token = .ok (claims, registered)) :
    registered.expiry = Registered.momentOf claims.expiry ∧ registered.hasSubject = true := by
  obtain ⟨segments, -, -, -, hpayload⟩ := authenticate_iff.mp h
  obtain ⟨text, -, hclaims, hregistered⟩ := readPayload_iff.mp hpayload
  exact registered_of_parse hclaims hregistered

/-- The expiry that is checked is the one in the claims. -/
theorem expiry_of_authenticate (h : issuer.authenticate token = .ok (claims, registered))
    {expiry : Nat} (hexpiry : registered.expiry = some expiry) : claims.expiry = expiry :=
  Registered.momentOf_eq_some ((registered_of_authenticate h).1.symm.trans hexpiry)

/-! ### What is given out -/

theorem decode_of_authenticate (h : issuer.authenticate token = .ok (claims, registered)) :
    issuer.decode token =
      if registered.hasAudience then .error (.malformed .invalidAudience) else .ok claims := by
  have hsubject := (registered_of_authenticate h).2
  rw [decode, examine_of_authenticate h, heldEver, hsubject, withoutAudience]
  cases registered.hasAudience <;> rfl

theorem verify_of_authenticate (h : issuer.authenticate token = .ok (claims, registered)) :
    issuer.verify now token =
      if claims.expiry < 0 then .error (.malformed (.missingClaim "exp"))
      else if claims.expiry < now then .error .expired
      else issuer.decode token := by
  obtain ⟨hexpiry, hsubject⟩ := registered_of_authenticate h
  rw [decode_of_authenticate h, verify, examine_of_authenticate h, heldAt, hexpiry, hsubject,
    Registered.momentOf]
  by_cases hsign : claims.expiry < 0
  · rw [if_neg (by omega), if_pos hsign]
    rfl
  · have hnatural : (claims.expiry.toNat : Int) = claims.expiry := by omega
    rw [if_pos (by omega), if_neg hsign]
    dsimp only
    rw [hnatural]
    by_cases hlate : claims.expiry < now
    · rw [if_pos hlate, if_pos hlate]
      rfl
    · rw [if_neg hlate, if_neg hlate, withoutAudience]
      cases registered.hasAudience <;> rfl

theorem verify_of_fault {fault : Token.Fault} (h : issuer.authenticate token = .error fault) :
    issuer.verify now token = issuer.decode token := by
  rw [verify, decode, examine_of_fault h, examine_of_fault h]

theorem verify_ok_iff (hnow : 0 ≤ now) : issuer.verify now token = .ok claims ↔
    issuer.decode token = .ok claims ∧ now ≤ claims.expiry := by
  cases hsigned : issuer.authenticate token with
  | error fault =>
    have hdecode : issuer.decode token = .error (.ofFault fault) := examine_of_fault hsigned
    rw [verify_of_fault hsigned, hdecode]
    constructor
    · intro hnone
      cases hnone
    · rintro ⟨hnone, -⟩
      cases hnone
  | ok read =>
    obtain ⟨given, registered⟩ := read
    have hgiven : issuer.decode token = .ok claims → given = claims := by
      rw [decode_of_authenticate hsigned]
      split
      · exact fun hnone ↦ by cases hnone
      · exact Except.ok.inj
    rw [verify_of_authenticate hsigned]
    by_cases hlate : given.expiry < now
    · have hnone : ¬(issuer.decode token = .ok claims ∧ now ≤ claims.expiry) := by
        rintro ⟨hdecode, hexpiry⟩
        rw [hgiven hdecode] at hlate
        omega
      rw [if_pos hlate]
      refine ⟨fun hverify ↦ ?_, fun hboth ↦ absurd hboth hnone⟩
      split at hverify <;> cases hverify
    · rw [if_neg (by omega), if_neg hlate]
      exact ⟨fun hdecode ↦ ⟨hdecode, by rw [← hgiven hdecode]; omega⟩, And.left⟩

theorem verify_expired (hdecode : issuer.decode token = .ok claims) (hexpiry : 0 ≤ claims.expiry)
    (hlate : claims.expiry < now) : issuer.verify now token = .error .expired := by
  obtain ⟨registered, hsigned, -⟩ := decode_iff.mp hdecode
  rw [verify_of_authenticate hsigned, if_neg (by omega), if_pos hlate]

/-! ### What is rejected -/

theorem verify_rejection {rejection : Rejection} (hdecode : issuer.decode token = .error rejection)
    (haudience : rejection ≠ .malformed .invalidAudience) :
    issuer.verify now token = .error rejection := by
  cases hsigned : issuer.authenticate token with
  | error fault => rw [verify_of_fault hsigned, hdecode]
  | ok read =>
    rw [decode_of_authenticate hsigned] at hdecode
    split at hdecode
    · exact absurd (Except.error.inj hdecode).symm haudience
    · cases hdecode

theorem verify_rejects (hdecode : issuer.decode token = .error (.malformed .invalidAudience)) :
    ∃ rejection, issuer.verify now token = .error rejection := by
  cases hsigned : issuer.authenticate token with
  | error fault => exact ⟨_, (verify_of_fault hsigned).trans hdecode⟩
  | ok read =>
    rw [verify_of_authenticate hsigned, hdecode]
    split
    · exact ⟨_, rfl⟩
    · split <;> exact ⟨_, rfl⟩

/-- What `verify` gives out is what `decode` gives out up to the expiry in it; past that it says
that the token has expired. What `decode` rejects `verify` rejects too, and with the same words
unless there is an audience. The expiry checked is that of the claims. -/
theorem verify_refines_decode (issuer : Issuer) (token : String) {now : Int} (hnow : 0 ≤ now) :
    (∀ claims, issuer.verify now token = .ok claims ↔
      issuer.decode token = .ok claims ∧ now ≤ claims.expiry) ∧
    (∀ claims, issuer.decode token = .ok claims → 0 ≤ claims.expiry → claims.expiry < now →
      issuer.verify now token = .error .expired) ∧
    (∀ rejection, issuer.decode token = .error rejection →
      rejection ≠ .malformed .invalidAudience → issuer.verify now token = .error rejection) ∧
    (issuer.decode token = .error (.malformed .invalidAudience) →
      ∃ rejection, issuer.verify now token = .error rejection) ∧
    ∀ claims registered, ∀ expiry : Nat, issuer.authenticate token = .ok (claims, registered) →
      registered.expiry = some expiry → claims.expiry = expiry :=
  ⟨fun _ ↦ verify_ok_iff hnow, fun _ ↦ verify_expired, fun _ ↦ verify_rejection, verify_rejects,
    fun _ _ _ hsigned hexpiry ↦ expiry_of_authenticate hsigned hexpiry⟩

/-- A second after its expiry a token is decoded and not verified. -/
theorem verify_refines_decode_expired : (0 : Int) ≤ 1700000301 ∧
    ∃ token, (Issuer.mk (asciiBytes "secret")).issueAt "alice" 300 1700000000 = .ok token ∧
      (Issuer.mk (asciiBytes "secret")).verify 1700000301 token = .error .expired := by
  have hfits : Decimal.Integer.Fits (1700000000 + 300) := by decide
  refine ⟨by decide, _, issueAt_of_fits _ _ hfits, ?_⟩
  refine (verify_refines_decode _ _ (by decide)).2.1 (.standard "alice" (1700000000 + 300)) ?_
    (by decide) (by decide)
  exact decode_iff.mpr
    ⟨_, @authenticate_segments _ (.standard "alice" (1700000000 + 300)) hfits, rfl, rfl⟩

end TokenService.Issuer
