import TokenService.Issuer
import TokenService.Proofs.Token.Segments

/-!
# What reading a token takes

A token is read in stages that each have to succeed: it is cut into segments, its header names the
algorithm, its signature is the issuer's own, and its payload holds claims (`authenticate_iff`).
After that only the registered claims matter: `decode_iff` and `verify_iff` say when the claims are
given out, and `examine_of_authenticate` what happens otherwise.
-/

set_option autoImplicit false
set_option relaxedAutoImplicit false

namespace TokenService.Issuer

open Token Text.Utf8

variable {issuer : Issuer} {token : String} {claims held : Claims} {registered : Registered}
  {now : Int}

/-- The stages of reading a token. -/
theorem authenticate_iff : issuer.authenticate token = .ok (claims, registered) ↔
    ∃ segments, Segments.ofBytes? (encode token) = some segments ∧
      readHeader segments.header = .ok ⟨some .hs256⟩ ∧
      segments.signature = issuer.sign segments.message ∧
      readPayload segments.payload = .ok (claims, registered) := by
  unfold authenticate
  constructor
  · intro h
    split at h
    · cases h
    · next segments hsegments =>
      split at h
      · cases h
      · next header hheader =>
        split at h
        · cases h
        · next halgorithm =>
          split at h
          · cases h
          · next hsignature =>
            rw [Decidable.not_not] at halgorithm hsignature
            refine ⟨segments, hsegments, ?_, hsignature, h⟩
            rw [hheader, ← halgorithm]
  · rintro ⟨segments, hsegments, hheader, hsignature, hpayload⟩
    rw [hsegments]
    dsimp only
    rw [hheader]
    dsimp only
    rw [if_neg (not_not.mpr rfl), if_neg (not_not.mpr hsignature), hpayload]

theorem readHeader_iff {segment : Bytes} {header : Header} : readHeader segment = .ok header ↔
    ∃ text, Base64Url.decode segment = .ok text ∧ Header.parse text = .ok header := by
  unfold readHeader
  grind

theorem readPayload_iff {segment : Bytes} : readPayload segment = .ok (claims, registered) ↔
    ∃ text, Base64Url.decode segment = .ok text ∧ Claims.parse text = .ok claims ∧
      Registered.parse text = .ok registered := by
  unfold readPayload
  grind

/-! ### Checks of a signed token -/

theorem examine_of_authenticate {check : Claims → Registered → Except Token.Fault Claims}
    (h : issuer.authenticate token = .ok (claims, registered)) :
    issuer.examine token check = (check claims registered).mapError .ofFault := by
  rw [examine, h]
  dsimp only
  cases check claims registered <;> rfl

theorem examine_of_fault {check : Claims → Registered → Except Token.Fault Claims}
    {fault : Token.Fault} (h : issuer.authenticate token = .error fault) :
    issuer.examine token check = .error (.ofFault fault) := by
  rw [examine, h]

theorem heldEver_iff : heldEver claims registered = .ok held ↔
    registered.hasSubject = true ∧ registered.hasAudience = false ∧ held = claims := by
  unfold heldEver require withoutAudience
  cases registered.hasSubject <;> cases registered.hasAudience <;> simp [bind, Except.bind, eq_comm]

theorem heldAt_iff : heldAt now claims registered = .ok held ↔
    ∃ expiry : Nat, registered.expiry = some expiry ∧ now ≤ expiry ∧
      heldEver claims registered = .ok held := by
  unfold heldAt heldEver
  cases registered.expiry with
  | none => simp
  | some expiry =>
    cases registered.hasSubject with
    | false => simp [require, bind, Except.bind]
    | true =>
      by_cases hnow : (expiry : Int) < now
      · have hlate : ¬now ≤ expiry := by omega
        simp [require, bind, Except.bind, hnow, hlate]
      · have hearly : now ≤ expiry := by omega
        simp [require, bind, Except.bind, hnow, hearly]

/-! ### Accepted tokens -/

theorem examine_iff {check : Claims → Registered → Except Token.Fault Claims} :
    issuer.examine token check = .ok held ↔
      ∃ claims registered, issuer.authenticate token = .ok (claims, registered) ∧
        check claims registered = .ok held := by
  unfold examine
  grind

theorem decode_iff : issuer.decode token = .ok held ↔
    ∃ registered, issuer.authenticate token = .ok (held, registered) ∧
      registered.hasSubject = true ∧ registered.hasAudience = false := by
  rw [decode, examine_iff]
  constructor
  · rintro ⟨claims, registered, hsigned, hcheck⟩
    obtain ⟨hsubject, haudience, rfl⟩ := heldEver_iff.mp hcheck
    exact ⟨registered, hsigned, hsubject, haudience⟩
  · rintro ⟨registered, hsigned, hsubject, haudience⟩
    exact ⟨held, registered, hsigned, heldEver_iff.mpr ⟨hsubject, haudience, rfl⟩⟩

theorem verify_iff : issuer.verify now token = .ok held ↔
    ∃ registered, ∃ expiry : Nat, issuer.authenticate token = .ok (held, registered) ∧
      registered.expiry = some expiry ∧ now ≤ expiry ∧
        registered.hasSubject = true ∧ registered.hasAudience = false := by
  rw [verify, examine_iff]
  constructor
  · rintro ⟨claims, registered, hsigned, hcheck⟩
    obtain ⟨expiry, hexpiry, hnow, hever⟩ := heldAt_iff.mp hcheck
    obtain ⟨hsubject, haudience, rfl⟩ := heldEver_iff.mp hever
    exact ⟨registered, expiry, hsigned, hexpiry, hnow, hsubject, haudience⟩
  · rintro ⟨registered, expiry, hsigned, hexpiry, hnow, hsubject, haudience⟩
    exact ⟨held, registered, hsigned,
      heldAt_iff.mpr ⟨expiry, hexpiry, hnow, heldEver_iff.mpr ⟨hsubject, haudience, rfl⟩⟩⟩

end TokenService.Issuer
