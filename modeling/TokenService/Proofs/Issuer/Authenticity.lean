import TokenService.Proofs.Issuer.Issued
import TokenService.Proofs.Json.Grammar.Record
import TokenService.Proofs.Token.Header
import TokenService.Proofs.Token.Payload

/-!
# Authenticity

A token that an issuer accepts is one that it could have made: `IsGenuine` says what all of it looks
like, down to the last character. Every stage of reading allows one spelling only. The segments are
cut at the only two dots, each segment is the one way to write the bytes that it reads as, and the
signature is compared as a text. So the header and payload bytes determine the token
(`eq_of_accepts`), and nothing but the signature of the issuer below a header that spells the
algorithm in use makes it accepted (`accepted_isGenuine`).
-/

set_option autoImplicit false
set_option relaxedAutoImplicit false

namespace TokenService.Issuer

open Token Text.Utf8
open Base64Url (IsSymbol encode_of_decode isSymbol_of_mem_encode)

/-- The issuer gives out some claims for a token, at some time or without regard to it. -/
def Accepts (issuer : Issuer) (token : String) (claims : Claims) : Prop :=
  issuer.decode token = .ok claims ∨ ∃ now, issuer.verify now token = .ok claims

/-- What a token with some claims is made of: its segments, and the bytes that the header and the
payload read as. -/
structure IsGenuine (issuer : Issuer) (token : String) (claims : Claims) (segments : Segments)
    (header payload : Bytes) : Prop where
  text : encode token =
    segments.header ++ dot :: segments.payload ++ dot :: segments.signature
  dots : token.toList.count '.' = 2
  alphabet : segments.InAlphabet
  headerText : Base64Url.decode segments.header = .ok header
  algorithm : Header.Spells .hs256 header
  payloadText : Base64Url.decode segments.payload = .ok payload
  isObject : Json.IsObject payload
  claims : Claims.parse payload = .ok claims
  signature : segments.signature = Base64Url.encode
    (Digest.Hmac.code issuer.secret (segments.header ++ dot :: segments.payload)).toList
  headerSpelling : Base64Url.encode header = segments.header
  payloadSpelling : Base64Url.encode payload = segments.payload

variable {issuer : Issuer} {token : String} {claims : Claims}

theorem Accepts.authenticate (h : issuer.Accepts token claims) :
    ∃ registered, issuer.authenticate token = .ok (claims, registered) := by
  rcases h with hdecode | ⟨now, hverify⟩
  · obtain ⟨registered, hsigned, -⟩ := decode_iff.mp hdecode
    exact ⟨registered, hsigned⟩
  · obtain ⟨registered, -, hsigned, -⟩ := verify_iff.mp hverify
    exact ⟨registered, hsigned⟩

/-! ### The text of a token -/

theorem isSymbol_of_decode {segment bytes : Bytes} (h : Base64Url.decode segment = .ok bytes) :
    ∀ byte ∈ segment, IsSymbol byte := by
  intro byte hbyte
  rw [← encode_of_decode h] at hbyte
  exact isSymbol_of_mem_encode hbyte

/-! ### Accepted tokens -/

theorem isGenuine_of_accepts (h : issuer.Accepts token claims) :
    ∃ segments header payload, issuer.IsGenuine token claims segments header payload := by
  obtain ⟨registered, hsigned⟩ := h.authenticate
  obtain ⟨segments, hsegments, hheader, hsignature, hpayload⟩ := authenticate_iff.mp hsigned
  obtain ⟨htext, -, -⟩ := Segments.toBytes_of_ofBytes? hsegments
  obtain ⟨header, hheaderText, halgorithm⟩ := readHeader_iff.mp hheader
  obtain ⟨payload, hpayloadText, hclaims, hregistered⟩ := readPayload_iff.mp hpayload
  obtain ⟨inner, draft, left, -, -, hopen, hmembers, -, -, hend, -⟩ :=
    object_of_parse hclaims hregistered
  have halphabet : segments.InAlphabet := by
    rintro byte (hbyte | hbyte | hbyte)
    · exact isSymbol_of_decode hheaderText byte hbyte
    · exact isSymbol_of_decode hpayloadText byte hbyte
    · rw [hsignature, sign] at hbyte
      exact isSymbol_of_mem_encode hbyte
  exact ⟨segments, header, payload,
    { text := htext.symm
      dots := Segments.count_dot halphabet htext
      alphabet := halphabet
      headerText := hheaderText
      algorithm := Header.parse_eq_ok_iff_spells.mp halgorithm
      payloadText := hpayloadText
      isObject := Json.Record.isObject_of_readMembers Claims.skippedAlike_readClaim hopen hmembers
        hend
      claims := hclaims
      signature := hsignature
      headerSpelling := encode_of_decode hheaderText
      payloadSpelling := encode_of_decode hpayloadText }⟩

theorem segments_of_accepts (h : issuer.Accepts token claims) {segments : Segments}
    (hsegments : Segments.ofBytes? (encode token) = some segments) :
    readHeader segments.header = .ok ⟨some .hs256⟩ ∧
      segments.signature = issuer.sign segments.message ∧
        ∃ registered, readPayload segments.payload = .ok (claims, registered) := by
  obtain ⟨registered, hsigned⟩ := h.authenticate
  obtain ⟨parts, hparts, hheader, hsignature, hpayload⟩ := authenticate_iff.mp hsigned
  rw [hsegments, Option.some.injEq] at hparts
  rw [hparts]
  exact ⟨hheader, hsignature, registered, hpayload⟩

/-- The header and payload bytes of an accepted token determine it. -/
theorem eq_of_accepts {first second : String} {others : Claims}
    (hfirst : issuer.Accepts first claims) (hsecond : issuer.Accepts second others)
    {left right : Segments} (hleft : Segments.ofBytes? (encode first) = some left)
    (hright : Segments.ofBytes? (encode second) = some right)
    (hheader : Base64Url.decode left.header = Base64Url.decode right.header)
    (hpayload : Base64Url.decode left.payload = Base64Url.decode right.payload) :
    first = second := by
  obtain ⟨hreadLeft, hsignLeft, _, hclaimsLeft⟩ := segments_of_accepts hfirst hleft
  obtain ⟨-, hsignRight, -⟩ := segments_of_accepts hsecond hright
  obtain ⟨header, hheaderText, -⟩ := readHeader_iff.mp hreadLeft
  obtain ⟨payload, hpayloadText, -⟩ := readPayload_iff.mp hclaimsLeft
  have hsameHeader : left.header = right.header := by
    rw [← encode_of_decode hheaderText, encode_of_decode (hheader ▸ hheaderText)]
  have hsamePayload : left.payload = right.payload := by
    rw [← encode_of_decode hpayloadText, encode_of_decode (hpayload ▸ hpayloadText)]
  have hmessage : left.message = right.message := by
    rw [Segments.message, Segments.message, hsameHeader, hsamePayload]
  apply encode_injective
  rw [← (Segments.toBytes_of_ofBytes? hleft).1, ← (Segments.toBytes_of_ofBytes? hright).1,
    Segments.toBytes, Segments.toBytes, hmessage, hsignLeft, hsignRight, hmessage]

/-- An issuer accepts only genuine tokens, no two of them with the same header and payload bytes,
and none whose header spells no header with the algorithm in use or whose signature is another than
its own. -/
theorem accepted_isGenuine (issuer : Issuer) :
    (∀ token claims, issuer.Accepts token claims →
      ∃ segments header payload, issuer.IsGenuine token claims segments header payload) ∧
    (∀ first second claims others left right,
      issuer.Accepts first claims → issuer.Accepts second others →
        Segments.ofBytes? (encode first) = some left →
          Segments.ofBytes? (encode second) = some right →
            Base64Url.decode left.header = Base64Url.decode right.header →
              Base64Url.decode left.payload = Base64Url.decode right.payload → first = second) ∧
    ∀ token segments, Segments.ofBytes? (encode token) = some segments →
      ((∀ header, Base64Url.decode segments.header = .ok header → ¬Header.Spells .hs256 header) ∨
        segments.signature ≠
          Base64Url.encode (Digest.Hmac.code issuer.secret segments.message).toList) →
          ∀ claims, ¬issuer.Accepts token claims := by
  refine ⟨fun token claims h ↦ isGenuine_of_accepts h, ?_, ?_⟩
  · intro first second claims others left right hfirst hsecond hleft hright hheader hpayload
    exact eq_of_accepts hfirst hsecond hleft hright hheader hpayload
  · rintro token segments hsegments hother claims haccepts
    obtain ⟨hheader, hsignature, -⟩ := segments_of_accepts haccepts hsegments
    rcases hother with halgorithm | hspelling
    · obtain ⟨text, htext, hparse⟩ := readHeader_iff.mp hheader
      exact halgorithm text htext (Header.parse_eq_ok_iff_spells.mp hparse)
    · exact hspelling hsignature

/-- An issued token is accepted and so it is genuine. Below a header that spells another algorithm
of the same kind nothing is accepted, and without a signature nothing is either. -/
theorem accepted_isGenuine_issued :
    (∃ token segments header payload,
      (Issuer.mk (asciiBytes "secret")).issueAt "alice" 300 1700000000 = .ok token ∧
        (Issuer.mk (asciiBytes "secret")).IsGenuine token
          (.standard "alice" (1700000000 + 300)) segments header payload) ∧
    Header.Spells .hs512 (asciiBytes "\x7b\"alg\":\"HS512\"\x7d") ∧
    (∀ claims, ¬(Issuer.mk (asciiBytes "secret")).Accepts "eyJhbGciOiJIUzUxMiJ9.e30.c2ln" claims) ∧
    ∀ claims, ¬(Issuer.mk (asciiBytes "secret")).Accepts "eyJhbGciOiJIUzI1NiJ9.e30." claims := by
  have hfits : Decimal.Integer.Fits (1700000000 + 300) := by decide
  obtain ⟨hgenuine, -, hrefused⟩ := accepted_isGenuine (Issuer.mk (asciiBytes "secret"))
  obtain ⟨segments, header, payload, hissued⟩ :=
    hgenuine _ _ (Or.inl (@decode_segments _ (.standard "alice" (1700000000 + 300)) hfits))
  have hspells : Header.Spells .hs512 (asciiBytes "\x7b\"alg\":\"HS512\"\x7d") :=
    Header.parse_eq_ok_iff_spells.mp (by decide +kernel)
  refine ⟨⟨_, segments, header, payload, issueAt_of_fits _ _ hfits, hissued⟩, hspells,
    hrefused _ ⟨asciiBytes "eyJhbGciOiJIUzUxMiJ9", asciiBytes "e30", asciiBytes "c2ln"⟩
      (by decide +kernel) (Or.inl fun text htext hother ↦ ?_),
    hrefused _ ⟨asciiBytes "eyJhbGciOiJIUzI1NiJ9", asciiBytes "e30", []⟩ (by decide +kernel)
      (Or.inr fun hnone ↦ ?_)⟩
  · have htext' : Base64Url.decode (asciiBytes "eyJhbGciOiJIUzUxMiJ9") =
        .ok (asciiBytes "\x7b\"alg\":\"HS512\"\x7d") := by decide +kernel
    rw [htext', Except.ok.injEq] at htext
    exact absurd (Header.Spells.unique (htext ▸ hspells) hother) (by decide)
  · have hlength := congrArg List.length hnone
    rw [Base64Url.length_encode, Vector.length_toList] at hlength
    cases hlength

end TokenService.Issuer
