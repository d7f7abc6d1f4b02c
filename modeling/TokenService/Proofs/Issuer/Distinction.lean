import TokenService.Proofs.Issuer.Anatomy

/-!
# Telling issued tokens apart

Each stage of writing a token can be undone: claims are read back from their text, the text from its
bytes, the bytes from their symbols, and the symbols from the characters between the dots. So two
tokens of one issuer, which begin with the same header, have the same payload only if they say the
same (`payloadSegment_injective`), and then they are the same token (`issued_eq_iff`). A user whose
name is written like the rest of a payload shares a token with nobody.
-/

set_option autoImplicit false
set_option relaxedAutoImplicit false

namespace TokenService.Issuer

open Token Text.Utf8
open Decimal.Integer (Fits)

/-! ### Payloads -/

section Payloads

variable {claims others : Claims} (hclaims : Fits claims.expiry) (hothers : Fits others.expiry)
include hclaims hothers

theorem payloadSegment_injective (h : payloadSegment claims = payloadSegment others) :
    claims = others := by
  have htext : claims.text = others.text := encode_injective (Base64Url.encode_injective h)
  have hread := Claims.parse_text hclaims
  rw [htext, Claims.parse_text hothers] at hread
  exact (Except.ok.inj hread).symm

theorem payload_injective
    (h : asciiText (payloadSegment claims) = asciiText (payloadSegment others)) :
    claims = others := by
  have hbytes := congrArg encode h
  rw [encode_payloadSegment, encode_payloadSegment] at hbytes
  exact payloadSegment_injective hclaims hothers hbytes

end Payloads

/-! ### Tokens -/

variable {issuer : Issuer} {user other first second : String} {duration lasting time moment : Int}

/-- Two tokens of one issuer have the same header. They are the same token exactly if they have the
same payload, and that is exactly if they speak of the same user and expire in the same second. -/
theorem issued_eq_iff (hfirst : issuer.issueAt user duration time = .ok first)
    (hsecond : issuer.issueAt other lasting moment = .ok second) :
    ∃ header payload payload' signature signature' : String,
      first.toList.splitOn '.' = [header.toList, payload.toList, signature.toList] ∧
      second.toList.splitOn '.' = [header.toList, payload'.toList, signature'.toList] ∧
      (first = second ↔ payload = payload') ∧
      (payload = payload' ↔ user = other ∧ time + duration = moment + lasting) := by
  obtain ⟨hfits, rfl⟩ := issueAt_iff.mp hfirst
  obtain ⟨hfits', rfl⟩ := issueAt_iff.mp hsecond
  have hparts := splitOn_segments issuer (.standard user (time + duration))
  have hparts' := splitOn_segments issuer (.standard other (moment + lasting))
  refine ⟨_, _, _, _, _, hparts, hparts', ⟨fun htoken ↦ ?_, fun hpayload ↦ ?_⟩,
    ⟨fun hpayload ↦ ?_, fun ⟨huser, hexpiry⟩ ↦ ?_⟩⟩
  · rw [htoken, hparts'] at hparts
    exact (String.toList_inj.mp (List.cons.inj (List.cons.inj hparts).2).1).symm
  · rw [payload_injective hfits hfits' hpayload]
  · have hclaims := payload_injective hfits hfits' hpayload
    exact ⟨congrArg Claims.subject hclaims, congrArg Claims.expiry hclaims⟩
  · rw [huser, hexpiry]

/-- Neither a second more nor a name that closes its own quotes gives the same token. -/
theorem issued_eq_iff_hostile :
    ∃ first second third : String,
      (Issuer.mk (asciiBytes "secret")).issueAt "erin" 3600 1700000000 = .ok first ∧
      (Issuer.mk (asciiBytes "secret")).issueAt "erin" 3600 1700000001 = .ok second ∧
      (Issuer.mk (asciiBytes "secret")).issueAt "erin\",\"exp\":0,\"sub\":\"" 3600 1700000000 =
        .ok third ∧
      first ≠ second ∧ first ≠ third := by
  have hfits : Fits (1700000000 + 3600) := by decide
  have hlater : Fits (1700000001 + 3600) := by decide
  have hfirst := issueAt_of_fits ⟨asciiBytes "secret"⟩ "erin" hfits
  have hsecond := issueAt_of_fits ⟨asciiBytes "secret"⟩ "erin" hlater
  have hthird := issueAt_of_fits ⟨asciiBytes "secret"⟩ "erin\",\"exp\":0,\"sub\":\"" hfits
  obtain ⟨_, _, _, _, _, -, -, htoken, hpayload⟩ := issued_eq_iff hfirst hsecond
  obtain ⟨_, _, _, _, _, -, -, htoken', hpayload'⟩ := issued_eq_iff hfirst hthird
  exact ⟨_, _, _, hfirst, hsecond, hthird, fun h ↦ by simpa using hpayload.mp (htoken.mp h),
    fun h ↦ by simpa using hpayload'.mp (htoken'.mp h)⟩

end TokenService.Issuer
