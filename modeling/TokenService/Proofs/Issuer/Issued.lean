import TokenService.Proofs.Base64Url
import TokenService.Proofs.Claims
import TokenService.Proofs.Issuer.Reading

/-!
# Issued tokens

What an issuer makes it reads back. The segments of a token are cut where they were joined, its
header names the algorithm in use and its signature is the issuer's own, so the payload is read for
what it holds (`authenticate_sealed`). In an issued token this is the written form of the claims
(`authenticate_segments`), so `decode` gives the claims that the token was issued with, and so does
`verify` until they expire (`issueAt_roundTrip`). After that `verify` reports the expiry only if it
is not before the epoch (`verify_issueAt_of_lt`): a negative one is no registered claim, and its
token counts as malformed.
-/

set_option autoImplicit false
set_option relaxedAutoImplicit false

namespace TokenService.Issuer

open Token Text.Utf8 Base64Url

/-! ### Sealed payloads -/

/-- A signature has 43 characters, whatever the secret is. -/
theorem length_sign (issuer : Issuer) (message : Bytes) : (issuer.sign message).length = 43 := by
  rw [sign, length_encode, Vector.length_toList]

/-- The segments that carry a payload, whoever wrote it: below the header of issued tokens, and
signed with the code of both under the secret. -/
def sealed (issuer : Issuer) (payload : Bytes) : Segments :=
  let segment := Base64Url.encode payload
  ⟨headerSegment, segment, Base64Url.encode
    (Digest.Hmac.code issuer.secret (headerSegment ++ dot :: segment)).toList⟩

section Sealed

variable {issuer : Issuer} {payload : Bytes}

theorem sealed_header : (issuer.sealed payload).header = headerSegment := by
  simp only [sealed]

theorem sealed_payload : (issuer.sealed payload).payload = Base64Url.encode payload := by
  simp only [sealed]

theorem sealed_signature : (issuer.sealed payload).signature =
    issuer.sign (issuer.sealed payload).message := by
  simp only [sealed, sign, Segments.message]

theorem inAlphabet_sealed : (issuer.sealed payload).InAlphabet := by
  rintro byte (hbyte | hbyte | hbyte)
  · rw [sealed_header, headerSegment] at hbyte
    exact isSymbol_of_mem_encode hbyte
  · rw [sealed_payload] at hbyte
    exact isSymbol_of_mem_encode hbyte
  · rw [sealed_signature, sign] at hbyte
    exact isSymbol_of_mem_encode hbyte

theorem readHeader_headerSegment : readHeader headerSegment = .ok ⟨some .hs256⟩ := by
  have hparse : Header.parse (asciiBytes Header.standardText) = .ok ⟨some .hs256⟩ := by
    decide +kernel
  rw [readHeader, headerSegment, decode_encode]
  dsimp only
  rw [hparse]

/-- The holder of the secret finds in a sealed payload what it holds. -/
theorem authenticate_sealed {claims : Claims} {registered : Registered}
    (hclaims : Claims.parse payload = .ok claims)
    (hregistered : Registered.parse payload = .ok registered) :
    issuer.authenticate (asciiText (issuer.sealed payload).toBytes) =
      .ok (claims, registered) := by
  refine authenticate_iff.mpr
    ⟨_, Segments.ofBytes?_encode_asciiText inAlphabet_sealed, ?_, sealed_signature, ?_⟩
  · rw [sealed_header, readHeader_headerSegment]
  · rw [sealed_payload]
    exact readPayload_iff.mpr ⟨payload, decode_encode payload, hclaims, hregistered⟩

end Sealed

/-! ### The segments -/

section Segments

variable {issuer : Issuer} {claims : Claims}

/-- An issued token seals the written form of its claims. -/
theorem segments_eq_sealed : issuer.segments claims = issuer.sealed (encode claims.text) := by
  simp only [segments, sealed, sign, payloadSegment]

theorem segments_header : (issuer.segments claims).header = headerSegment := by
  rw [segments_eq_sealed, sealed_header]

theorem segments_payload : (issuer.segments claims).payload = payloadSegment claims := by
  rw [segments_eq_sealed, sealed_payload, payloadSegment]

theorem segments_signature : (issuer.segments claims).signature =
    issuer.sign (issuer.segments claims).message := by
  rw [segments_eq_sealed, sealed_signature]

theorem inAlphabet_segments : (issuer.segments claims).InAlphabet := by
  rw [segments_eq_sealed]
  exact inAlphabet_sealed

end Segments

/-- The issuer of a token reads its claims back, and finds registered claims beside them. -/
theorem authenticate_segments (issuer : Issuer) {claims : Claims}
    (hfits : Decimal.Integer.Fits claims.expiry) :
    issuer.authenticate (asciiText (issuer.segments claims).toBytes) =
      .ok (claims, ⟨Registered.momentOf claims.expiry, true, false⟩) := by
  rw [segments_eq_sealed]
  exact authenticate_sealed (Claims.parse_text hfits) (Claims.parse_text_registered hfits)

/-! ### Issuing -/

/-- Signing fails for a key of another kind, and for nothing else. -/
theorem signedBy_eq_error_iff {key : Key} {claims : Claims} {fault : Token.Fault} :
    signedBy key claims = .error fault ↔ key.family ≠ .hmac ∧ fault = .invalidAlgorithm := by
  rw [signedBy, Algorithm.family]
  split
  · next hfamily => rw [Except.error.injEq, eq_comm, and_iff_right hfamily]
  · next hfamily => exact iff_of_false nofun fun h ↦ hfamily h.1

/-- A shared secret is a key of the right kind, so an issuer can sign whatever it is given. -/
theorem signedBy_key (issuer : Issuer) (claims : Claims) :
    signedBy issuer.key claims = .ok (asciiText (issuer.segments claims).toBytes) :=
  if_neg (not_not_intro rfl)

theorem issueAt_of_fits (issuer : Issuer) (user : String) {duration time : Int}
    (hfits : Decimal.Integer.Fits (time + duration)) : issuer.issueAt user duration time =
      .ok (asciiText (issuer.segments (.standard user (time + duration))).toBytes) := by
  rw [issueAt, Decimal.Integer.add?, Decimal.Integer.within?, if_pos hfits]
  dsimp only
  rw [signedBy_key]

theorem issueAt_of_not_fits (issuer : Issuer) (user : String) {duration time : Int}
    (hfits : ¬Decimal.Integer.Fits (time + duration)) :
    issuer.issueAt user duration time = .error (.outOfRange "duration") := by
  rw [issueAt, Decimal.Integer.add?, Decimal.Integer.within?, if_neg hfits]

theorem issueAt_iff {issuer : Issuer} {user token : String} {duration time : Int} :
    issuer.issueAt user duration time = .ok token ↔
      Decimal.Integer.Fits (time + duration) ∧
        asciiText (issuer.segments (.standard user (time + duration))).toBytes = token := by
  by_cases hfits : Decimal.Integer.Fits (time + duration)
  · rw [issueAt_of_fits issuer user hfits, Except.ok.injEq, and_iff_right hfits]
  · rw [issueAt_of_not_fits issuer user hfits]
    exact iff_of_false nofun (hfits ·.1)

/-- The claims of an issued token are given out at any time. -/
theorem decode_segments (issuer : Issuer) {claims : Claims}
    (hfits : Decimal.Integer.Fits claims.expiry) :
    issuer.decode (asciiText (issuer.segments claims).toBytes) = .ok claims :=
  decode_iff.mpr ⟨_, authenticate_segments issuer hfits, rfl, rfl⟩

/-- The claims of an issued token are given out up to the second of their expiry. -/
theorem verify_segments (issuer : Issuer) {claims : Claims}
    (hfits : Decimal.Integer.Fits claims.expiry) {now : Int} (hnow : 0 ≤ now)
    (hlate : now ≤ claims.expiry) :
    issuer.verify now (asciiText (issuer.segments claims).toBytes) = .ok claims := by
  have hexpiry : Registered.momentOf claims.expiry = some claims.expiry.toNat :=
    if_pos (hnow.trans hlate)
  exact verify_iff.mpr ⟨_, claims.expiry.toNat, authenticate_segments issuer hfits, hexpiry,
    by omega, rfl, rfl⟩

/-- Whatever the user is called, an issued token reads back as the claims it was issued with: at any
time for `decode`, and up to the second of its expiry for `verify`. -/
theorem issueAt_roundTrip (issuer : Issuer) (user : String) {duration time : Int}
    (hfits : Decimal.Integer.Fits (time + duration)) :
    ∃ token, issuer.issueAt user duration time = .ok token ∧
      issuer.decode token = .ok ⟨user, time + duration, Claims.standardChannels⟩ ∧
      ∀ now, 0 ≤ now → now ≤ time + duration →
        issuer.verify now token = .ok ⟨user, time + duration, Claims.standardChannels⟩ := by
  refine ⟨_, issueAt_of_fits issuer user hfits, ?_, fun now hnow hlate ↦ ?_⟩
  · exact @decode_segments issuer (.standard user (time + duration)) hfits
  · exact @verify_segments issuer (.standard user (time + duration)) hfits now hnow hlate

/-- A user who is called like the rest of a payload changes nothing. -/
theorem issueAt_roundTrip_hostile : Decimal.Integer.Fits (1700000000 + 60) ∧
    ∃ token, (Issuer.mk [0x73, 0x00, 0xff]).issueAt "\",\"exp\":9,\"aud\":\"\\ü\n" 60 1700000000 =
        .ok token ∧
      (Issuer.mk [0x73, 0x00, 0xff]).decode token =
        .ok ⟨"\",\"exp\":9,\"aud\":\"\\ü\n", 1700000000 + 60, Claims.standardChannels⟩ ∧
      ∀ now, 0 ≤ now → now ≤ 1700000000 + 60 →
        (Issuer.mk [0x73, 0x00, 0xff]).verify now token =
          .ok ⟨"\",\"exp\":9,\"aud\":\"\\ü\n", 1700000000 + 60, Claims.standardChannels⟩ :=
  ⟨by decide, issueAt_roundTrip _ _ (by decide)⟩

/-! ### Out of date -/

theorem heldAt_of_lt {claims : Claims} {now : Int} (hlate : claims.expiry < now) :
    heldAt now claims ⟨Registered.momentOf claims.expiry, true, false⟩ =
      .error (if 0 ≤ claims.expiry then .expiredSignature else .missingClaim "exp") := by
  by_cases hexpiry : 0 ≤ claims.expiry
  · have hlate' : (claims.expiry.toNat : Int) < now := by omega
    rw [heldAt, Registered.momentOf, if_pos hexpiry, if_pos hexpiry]
    dsimp only
    rw [if_pos hlate']
    rfl
  · rw [heldAt, Registered.momentOf, if_neg hexpiry, if_neg hexpiry]

/-- After that an issued token counts as expired, unless its expiry is before the epoch. -/
theorem verify_segments_of_lt (issuer : Issuer) {claims : Claims}
    (hfits : Decimal.Integer.Fits claims.expiry) {now : Int} (hlate : claims.expiry < now) :
    issuer.verify now (asciiText (issuer.segments claims).toBytes) = .error
      (if 0 ≤ claims.expiry then .expired else .malformed (.missingClaim "exp")) := by
  rw [verify, examine_of_authenticate (authenticate_segments issuer hfits), heldAt_of_lt hlate]
  change Except.error (Rejection.ofFault (if 0 ≤ claims.expiry then _ else _)) = _
  split <;> rfl

/-- An issued token that is out of date is reported as expired exactly if its expiry is not before
the epoch. Otherwise it is reported as a token without an expiry. -/
theorem verify_issueAt_of_lt (issuer : Issuer) (user : String) {duration time now : Int}
    (hfits : Decimal.Integer.Fits (time + duration)) (hlate : time + duration < now) :
    ∃ token, issuer.issueAt user duration time = .ok token ∧
      issuer.verify now token = .error
        (if 0 ≤ time + duration then .expired else .malformed (.missingClaim "exp")) := by
  exact ⟨_, issueAt_of_fits issuer user hfits,
    @verify_segments_of_lt issuer (.standard user (time + duration)) hfits now hlate⟩

/-- Two minutes before a time after the epoch an expiry is still after the epoch. -/
theorem verify_issueAt_of_lt_recent : Decimal.Integer.Fits (1700000000 + -120) ∧
    (1700000000 : Int) + -120 < 1700000000 ∧
    ∃ token, (Issuer.mk (asciiBytes "secret")).issueAt "dave" (-120) 1700000000 = .ok token ∧
      (Issuer.mk (asciiBytes "secret")).verify 1700000000 token = .error
        (if 0 ≤ (1700000000 : Int) + -120 then .expired else .malformed (.missingClaim "exp")) :=
  ⟨by decide, by decide, verify_issueAt_of_lt _ _ (by decide) (by decide)⟩

/-- A minute after the epoch the same lifetime gives a token that is out of date and yet not
reported as expired. -/
theorem verify_issueAt_before_epoch :
    ∃ token, (Issuer.mk (asciiBytes "unit-test-secret-with-enough-bytes!!")).issueAt
        "dave" (-120) 60 = .ok token ∧
      (Issuer.mk (asciiBytes "unit-test-secret-with-enough-bytes!!")).verify 60 token =
        .error (.malformed (.missingClaim "exp")) := by
  have hfits : Decimal.Integer.Fits (60 + -120) := by decide
  have hlate : (60 : Int) + -120 < 60 := by decide
  exact ⟨_, issueAt_of_fits _ _ hfits,
    (@verify_segments_of_lt _ (.standard "dave" (60 + -120)) hfits 60 hlate).trans
      (congrArg Except.error (if_neg (by decide)))⟩

end TokenService.Issuer
