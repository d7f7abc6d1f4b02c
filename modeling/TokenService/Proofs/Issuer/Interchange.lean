import TokenService.Proofs.Digest.Hmac
import TokenService.Proofs.Issuer.Anatomy
import TokenService.Proofs.Issuer.Precedence
import TokenService.Proofs.Issuer.Refinement

/-!
# Tokens under another secret

A signature is a code written in symbols, so two secrets sign a message alike exactly if they give
it the same code (`sign_eq_iff`). A token that is signed with one secret is then read alike under
the other. If the codes differ it is rejected for its signature, and for nothing else: what is found
out later about a token cannot hide a wrong signature, nor pass for one
(`decode_eq_invalidSignature_iff`, `verify_eq_invalidSignature_iff`). Secrets with a common key
block sign every message alike, and their issuers do not differ in anything (`Agrees`).
-/

set_option autoImplicit false
set_option relaxedAutoImplicit false

namespace TokenService.Issuer

open Token Text.Utf8 Digest

variable {issuer other : Issuer} {token : String} {now : Int}

/-! ### Wrong signatures -/

theorem ofFault_eq_invalidSignature_iff {fault : Token.Fault} :
    Rejection.ofFault fault = .invalidSignature ↔ fault = .invalidSignature := by
  cases fault <;> simp [Rejection.ofFault]

theorem decode_eq_invalidSignature_iff : issuer.decode token = .error .invalidSignature ↔
    issuer.authenticate token = .error .invalidSignature := by
  cases hsigned : issuer.authenticate token with
  | error fault =>
    rw [decode, examine_of_fault hsigned, Except.error.injEq, Except.error.injEq,
      ofFault_eq_invalidSignature_iff]
  | ok read =>
    rw [decode_of_authenticate hsigned]
    split <;> simp

theorem verify_eq_invalidSignature_iff : issuer.verify now token = .error .invalidSignature ↔
    issuer.authenticate token = .error .invalidSignature := by
  cases hsigned : issuer.authenticate token with
  | error fault => rw [verify_of_fault hsigned, decode_eq_invalidSignature_iff, hsigned]
  | ok read =>
    rw [verify_of_authenticate hsigned]
    split
    · simp
    · split
      · simp
      · rw [decode_eq_invalidSignature_iff, hsigned]

theorem sign_eq_iff {message : Bytes} : issuer.sign message = other.sign message ↔
    Hmac.code issuer.secret message = Hmac.code other.secret message := by
  rw [sign, sign]
  constructor
  · exact fun h ↦ Vector.toList_inj.mp (Base64Url.encode_injective h)
  · exact fun h ↦ by rw [h]

/-- A signed token has a wrong signature under another secret exactly if its code is another. -/
theorem authenticate_eq_invalidSignature_iff {claims : Claims} {registered : Registered}
    {segments : Segments} (hsigned : issuer.authenticate token = .ok (claims, registered))
    (hsegments : Segments.ofBytes? (encode token) = some segments) :
    other.authenticate token = .error .invalidSignature ↔
      Hmac.code other.secret segments.message ≠ Hmac.code issuer.secret segments.message := by
  obtain ⟨parts, hparts, hheader, hsignature, hpayload⟩ := authenticate_iff.mp hsigned
  obtain rfl : segments = parts := Option.some.inj (hsegments.symm.trans hparts)
  constructor
  · intro hfault hcode
    have hown : segments.signature = other.sign segments.message :=
      hsignature.trans (sign_eq_iff.mpr hcode.symm)
    rw [authenticate_iff.mpr ⟨segments, hsegments, hheader, hown, hpayload⟩] at hfault
    cases hfault
  · intro hcode
    obtain ⟨text, hsegment, htext⟩ := readHeader_iff.mp hheader
    refine authenticate_of_signature hsegments
      ⟨text, hsegment, Header.parse_eq_ok_iff_spells.mp htext⟩ fun hown ↦ ?_
    exact hcode (sign_eq_iff.mp (hsignature.symm.trans hown)).symm

/-! ### Interchangeable issuers -/

/-- Two issuers do the same: they issue the same tokens and read every token alike. -/
structure Agrees (issuer other : Issuer) : Prop where
  issueAt : ∀ user duration time,
    issuer.issueAt user duration time = other.issueAt user duration time
  decode : ∀ token, issuer.decode token = other.decode token
  verify : ∀ now token, issuer.verify now token = other.verify now token

theorem agrees_of_sign (h : ∀ message, issuer.sign message = other.sign message) :
    issuer.Agrees other := by
  have hsegments : ∀ claims, issuer.segments claims = other.segments claims :=
    fun claims ↦ by rw [segments, segments, h]
  have hread : ∀ token, issuer.authenticate token = other.authenticate token :=
    fun token ↦ by simp only [authenticate, h]
  constructor
  case issueAt => exact fun user duration time ↦ by simp only [issueAt, signedBy_key, hsegments]
  case decode => exact fun token ↦ by rw [decode, decode, examine, examine, hread]
  case verify => exact fun now token ↦ by rw [verify, verify, examine, examine, hread]

/-- A token is rejected for its signature under another secret exactly if the code of its message is
another. Secrets with a common key block make issuers that agree in everything. -/
theorem secrets_told_apart (first second : Bytes) :
    (∀ user duration time token, (Issuer.mk first).issueAt user duration time = .ok token →
      ∃ header payload signature : String,
        token.toList.splitOn '.' = [header.toList, payload.toList, signature.toList] ∧
        ((Issuer.mk second).decode token = .error .invalidSignature ↔
          Hmac.code second (encode (header ++ "." ++ payload)) ≠
            Hmac.code first (encode (header ++ "." ++ payload))) ∧
        ∀ now, (Issuer.mk second).verify now token = .error .invalidSignature ↔
          Hmac.code second (encode (header ++ "." ++ payload)) ≠
            Hmac.code first (encode (header ++ "." ++ payload))) ∧
    ∀ block, Hmac.IsKeyBlock first block → Hmac.IsKeyBlock second block →
      (Issuer.mk first).Agrees (Issuer.mk second) := by
  constructor
  · intro user duration time token hissued
    obtain ⟨hfits, rfl⟩ := issueAt_iff.mp hissued
    have hsigned := @authenticate_segments ⟨first⟩ (.standard user (time + duration)) hfits
    have hwrong := @authenticate_eq_invalidSignature_iff _ ⟨second⟩ _ _ _ _ hsigned
      (Segments.ofBytes?_encode_asciiText inAlphabet_segments)
    refine ⟨_, _, _, splitOn_segments _ _, ?_, fun now ↦ ?_⟩
    · rw [decode_eq_invalidSignature_iff, encode_message, hwrong]
    · rw [verify_eq_invalidSignature_iff, encode_message, hwrong]
  · intro block hfirst hsecond
    exact agrees_of_sign fun message ↦
      sign_eq_iff.mpr (Hmac.code_eq_of_isKeyBlock hfirst hsecond message)

/-- A zero behind a secret changes nothing, so no token that was issued without it is rejected for
its signature. Neither does the digest in the place of a secret that is too long for a block. A
capital letter changes the code, so the token is rejected for its signature. -/
theorem secrets_told_apart_padded :
    (∃ token, (Issuer.mk (asciiBytes "secret")).issueAt "" 0 0 = .ok token ∧
      (Issuer.mk (asciiBytes "secret\x00")).decode token ≠ .error .invalidSignature ∧
      (∀ now,
        (Issuer.mk (asciiBytes "secret\x00")).verify now token ≠ .error .invalidSignature) ∧
      (Issuer.mk (asciiBytes "Secret")).decode token = .error .invalidSignature ∧
      ∀ now, (Issuer.mk (asciiBytes "Secret")).verify now token = .error .invalidSignature) ∧
    (Issuer.mk (asciiBytes "secret")).Agrees ⟨asciiBytes "secret\x00"⟩ ∧
    (Issuer.mk (List.replicate 65 0x61)).Agrees
      ⟨(Sha256.digest (List.replicate 65 0x61)).toList⟩ := by
  have hblock : Hmac.IsKeyBlock (asciiBytes "secret") (Hmac.keyBlock (asciiBytes "secret")) :=
    Hmac.isKeyBlock_iff.mpr rfl
  have hpadded : Hmac.IsKeyBlock (asciiBytes "secret\x00") (Hmac.keyBlock (asciiBytes "secret")) :=
    @Hmac.IsKeyBlock.append_zeros _ _ hblock 1 (by decide)
  have hlong := @Hmac.IsKeyBlock.long (List.replicate 65 0x61) (by decide)
  have hfits : Decimal.Integer.Fits (0 + 0) := by decide
  have hissued := issueAt_of_fits ⟨asciiBytes "secret"⟩ "" hfits
  obtain ⟨htokens, hagree⟩ := secrets_told_apart (asciiBytes "secret") (asciiBytes "secret\x00")
  obtain ⟨header, payload, signature, -, hdecode, hverify⟩ := htokens _ _ _ _ hissued
  have hcode := Hmac.code_eq_of_isKeyBlock hpadded hblock (encode (header ++ "." ++ payload))
  obtain ⟨head, load, tail, hparts, hother, hothers⟩ :=
    (secrets_told_apart (asciiBytes "secret") (asciiBytes "Secret")).1 _ _ _ _ hissued
  rw [splitOn_segments, List.cons.injEq, List.cons.injEq, String.toList_inj, String.toList_inj]
    at hparts
  obtain ⟨rfl, rfl, -⟩ := hparts
  rw [encode_message ⟨asciiBytes "secret"⟩] at hother hothers
  have hdiffers : Hmac.code (asciiBytes "Secret")
      ((Issuer.mk (asciiBytes "secret")).segments (.standard "" (0 + 0))).message ≠
    Hmac.code (asciiBytes "secret")
      ((Issuer.mk (asciiBytes "secret")).segments (.standard "" (0 + 0))).message := by
    refine fun hsame ↦ absurd (congrArg Vector.toList hsame) ?_
    rw [Hmac.toList_code, Hmac.toList_code]
    decide +kernel
  exact ⟨⟨_, hissued, fun h ↦ hdecode.mp h hcode, fun now h ↦ (hverify now).mp h hcode,
    hother.mpr hdiffers, fun now ↦ (hothers now).mpr hdiffers⟩,
    hagree _ hblock hpadded, (secrets_told_apart _ _).2 _ hlong (hlong.digest (by decide))⟩

end TokenService.Issuer
