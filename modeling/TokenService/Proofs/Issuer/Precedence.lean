import TokenService.Proofs.Issuer.Issued
import TokenService.Proofs.Token.Header

/-!
# What is checked before the payload

A token is turned away for its header, or for its signature, before its payload is looked at. A
header that is no base64, spells no header, or spells another algorithm has one fault
(`HeaderFault`), and every token with this header is malformed for this fault, whatever its payload
is and however it is signed. Below a header that names the algorithm in use (`NamesAlgorithm`) a
wrong signature is all that is reported.
-/

set_option autoImplicit false
set_option relaxedAutoImplicit false

namespace TokenService.Issuer

open Token Text.Utf8

variable {issuer : Issuer} {token : String} {segment : Bytes} {fault : Token.Fault}

/-! ### Headers -/

/-- What is wrong with a header segment. -/
inductive HeaderFault (segment : Bytes) : Token.Fault → Prop
  | notBase64 {fault : Base64Url.Fault} (hsegment : Base64Url.decode segment = .error fault) :
      HeaderFault segment (.base64 fault)
  | notHeader {text : Bytes} {diagnostic : Json.Diagnostic}
      (hsegment : Base64Url.decode segment = .ok text)
      (hnone : ∀ algorithm, ¬Header.Spells algorithm text)
      (hparse : Header.parse text = .error diagnostic) : HeaderFault segment (.json diagnostic)
  | otherAlgorithm {text : Bytes} {algorithm : Algorithm}
      (hsegment : Base64Url.decode segment = .ok text) (htext : Header.Spells algorithm text)
      (halgorithm : algorithm ≠ .hs256) : HeaderFault segment .invalidAlgorithm

/-- The segment is a header that names the algorithm in use. -/
def NamesAlgorithm (segment : Bytes) : Prop :=
  ∃ text, Base64Url.decode segment = .ok text ∧ Header.Spells .hs256 text

theorem not_namesAlgorithm {text : Bytes} (hsegment : Base64Url.decode segment = .ok text)
    (hparse : Header.parse text ≠ .ok ⟨some .hs256⟩) : ¬NamesAlgorithm segment := by
  rintro ⟨other, hother, htext⟩
  rw [hsegment, Except.ok.injEq] at hother
  exact hparse (hother ▸ Header.parse_of_spells htext)

theorem exists_headerFault (h : ¬NamesAlgorithm segment) : ∃ fault, HeaderFault segment fault := by
  cases hsegment : Base64Url.decode segment with
  | error fault => exact ⟨_, .notBase64 hsegment⟩
  | ok text =>
    cases hparse : Header.parse text with
    | error diagnostic =>
      exact ⟨_, .notHeader hsegment (Header.parse_error_iff.mp ⟨_, hparse⟩) hparse⟩
    | ok header =>
      obtain ⟨algorithm, -, htext⟩ := Header.exists_spells_of_parse hparse
      refine ⟨_, .otherAlgorithm hsegment htext ?_⟩
      rintro rfl
      exact h ⟨text, hsegment, htext⟩

theorem HeaderFault.ofFault (h : HeaderFault segment fault) :
    Rejection.ofFault fault = .malformed fault := by
  cases h <;> rfl

/-! ### Rejected tokens -/

/-- Both readers of a token turn it away for the same reason, at any time. -/
def Rejects (issuer : Issuer) (token : String) (rejection : Rejection) : Prop :=
  issuer.decode token = .error rejection ∧ ∀ now, issuer.verify now token = .error rejection

theorem rejects_of_authenticate (h : issuer.authenticate token = .error fault) :
    issuer.Rejects token (.ofFault fault) :=
  ⟨examine_of_fault h, fun _ ↦ examine_of_fault h⟩

section Stages

variable {segments : Segments} (hsegments : Segments.ofBytes? (encode token) = some segments)
include hsegments

theorem authenticate_of_headerFault (h : HeaderFault segments.header fault) :
    issuer.authenticate token = .error fault := by
  rw [authenticate, hsegments]
  dsimp only
  cases h with
  | notBase64 hsegment => rw [readHeader, hsegment]
  | notHeader hsegment _ hparse =>
    rw [readHeader, hsegment]
    dsimp only
    rw [hparse]
  | otherAlgorithm hsegment htext halgorithm =>
    rw [readHeader_iff.mpr ⟨_, hsegment, Header.parse_of_spells htext⟩]
    dsimp only
    rw [if_pos fun hsame ↦ halgorithm (Option.some.inj hsame)]

theorem authenticate_of_signature (hheader : NamesAlgorithm segments.header)
    (hsignature : segments.signature ≠ issuer.sign segments.message) :
    issuer.authenticate token = .error .invalidSignature := by
  obtain ⟨text, hsegment, htext⟩ := hheader
  rw [authenticate, hsegments]
  dsimp only
  rw [readHeader_iff.mpr ⟨text, hsegment, Header.parse_of_spells htext⟩]
  dsimp only
  rw [if_neg (not_not.mpr rfl), if_pos hsignature]

end Stages

theorem count_dot_encode (text : String) : (encode text).count dot = text.toList.count '.' :=
  count_encode (by decide) text

theorem authenticate_of_count_lt (h : token.toList.count '.' < 2) :
    issuer.authenticate token = .error .invalidToken := by
  rw [← count_dot_encode] at h
  rw [authenticate, Segments.ofBytes?_eq_none_iff.mpr h]

/-! ### Tokens of three texts -/

/-- The token of a header, a payload and a signature. -/
def joined (header payload signature : String) : String :=
  header ++ "." ++ payload ++ "." ++ signature

theorem ofBytes?_encode_joined (header : String) {payload signature : String}
    (hpayload : '.' ∉ payload.toList) (hsignature : '.' ∉ signature.toList) :
    Segments.ofBytes? (encode (joined header payload signature)) =
      some ⟨encode header, encode payload, encode signature⟩ := by
  have hnone : ∀ text : String, '.' ∉ text.toList → dot ∉ encode text := by
    intro text htext
    rw [← List.count_eq_zero, count_dot_encode, List.count_eq_zero]
    exact htext
  have hbytes : encode (joined header payload signature) =
      (Segments.mk (encode header) (encode payload) (encode signature)).toBytes := by
    rw [joined, encode_join, encode_join, Segments.toBytes, Segments.message]
  rw [hbytes]
  exact Segments.ofBytes?_toBytes (hnone payload hpayload) (hnone signature hsignature)

/-- A header that does not name the algorithm in use has a fault, and every token with this header
is malformed for it, whatever its payload and its signature are. Below any other header a signature
that is not the issuer's own is all that is reported of a token, whatever its payload is. A text
without two dots is no token. -/
theorem rejects_before_payload (header : String) :
    (¬NamesAlgorithm (encode header) → ∃ fault, HeaderFault (encode header) fault ∧
      ∀ (issuer : Issuer) (payload signature : String), '.' ∉ payload.toList →
        '.' ∉ signature.toList →
          issuer.Rejects (joined header payload signature) (.malformed fault)) ∧
    (NamesAlgorithm (encode header) → ∀ (issuer : Issuer) (payload signature : String),
      '.' ∉ payload.toList → '.' ∉ signature.toList →
        encode signature ≠ Base64Url.encode
          (Digest.Hmac.code issuer.secret (encode (header ++ "." ++ payload))).toList →
          issuer.Rejects (joined header payload signature) .invalidSignature) ∧
    ∀ (issuer : Issuer) (token : String), token.toList.count '.' < 2 →
      issuer.Rejects token (.malformed .invalidToken) := by
  refine ⟨fun hheader ↦ ?_, ?_, ?_⟩
  · obtain ⟨fault, hfault⟩ := exists_headerFault hheader
    refine ⟨fault, hfault, fun issuer payload signature hpayload hsignature ↦ ?_⟩
    rw [← hfault.ofFault]
    exact rejects_of_authenticate
      (authenticate_of_headerFault (ofBytes?_encode_joined header hpayload hsignature) hfault)
  · intro hheader issuer payload signature hpayload hsignature hother
    rw [encode_join] at hother
    have hfault := authenticate_of_signature
      (ofBytes?_encode_joined header hpayload hsignature) hheader hother
    exact rejects_of_authenticate hfault
  · intro issuer token htoken
    exact rejects_of_authenticate (authenticate_of_count_lt htoken)

/-- A header with another algorithm of the same kind and one with a number for a key, a payload that
is no base64 without a signature, and a text with one dot. -/
theorem rejects_before_payload_forged :
    let issuer : Issuer := ⟨asciiBytes "secret"⟩
    ¬NamesAlgorithm (encode "eyJhbGciOiJIUzUxMiJ9") ∧
      (∃ fault, HeaderFault (encode "eyJhbGciOiJIUzUxMiJ9") fault ∧
        issuer.Rejects (joined "eyJhbGciOiJIUzUxMiJ9" "e30" "c2ln") (.malformed fault)) ∧
      Base64Url.decode (encode "eyJhbGciOiJIUzI1NiIsImp3ayI6NX0") =
        .ok (asciiBytes "\x7b\"alg\":\"HS256\",\"jwk\":5\x7d") ∧
      ¬NamesAlgorithm (encode "eyJhbGciOiJIUzI1NiIsImp3ayI6NX0") ∧
      (∃ fault, HeaderFault (encode "eyJhbGciOiJIUzI1NiIsImp3ayI6NX0") fault ∧
        issuer.Rejects (joined "eyJhbGciOiJIUzI1NiIsImp3ayI6NX0" "e30" "c2ln")
          (.malformed fault)) ∧
      NamesAlgorithm (encode "eyJ0eXAiOiJKV1QiLCJhbGciOiJIUzI1NiJ9") ∧
      issuer.Rejects (joined "eyJ0eXAiOiJKV1QiLCJhbGciOiJIUzI1NiJ9" "!" "") .invalidSignature ∧
      issuer.Rejects "e30.e30" (.malformed .invalidToken) := by
  intro issuer
  have hother : ¬NamesAlgorithm (encode "eyJhbGciOiJIUzUxMiJ9") :=
    @not_namesAlgorithm _ (asciiBytes "\x7b\"alg\":\"HS512\"\x7d") (by decide +kernel)
      (by decide +kernel)
  have hkey : ¬NamesAlgorithm (encode "eyJhbGciOiJIUzI1NiIsImp3ayI6NX0") :=
    @not_namesAlgorithm _ (asciiBytes "\x7b\"alg\":\"HS256\",\"jwk\":5\x7d") (by decide +kernel)
      (by decide +kernel)
  have hnamed : NamesAlgorithm (encode "eyJ0eXAiOiJKV1QiLCJhbGciOiJIUzI1NiJ9") :=
    ⟨asciiBytes Header.standardText, by decide +kernel,
      Header.parse_eq_ok_iff_spells.mp (by decide +kernel)⟩
  have hunsigned : ∀ message,
      encode "" ≠ Base64Url.encode (Digest.Hmac.code issuer.secret message).toList := by
    intro message hsame
    have hlength := congrArg List.length hsame
    rw [Base64Url.length_encode, Vector.length_toList] at hlength
    cases hlength
  obtain ⟨hmalformed, -, hshort⟩ := rejects_before_payload "eyJhbGciOiJIUzUxMiJ9"
  obtain ⟨fault, hfault, hrejects⟩ := hmalformed hother
  obtain ⟨hmalformed', -⟩ := rejects_before_payload "eyJhbGciOiJIUzI1NiIsImp3ayI6NX0"
  obtain ⟨fault', hfault', hrejects'⟩ := hmalformed' hkey
  obtain ⟨-, hforged, -⟩ := rejects_before_payload "eyJ0eXAiOiJKV1QiLCJhbGciOiJIUzI1NiJ9"
  exact ⟨hother, ⟨fault, hfault, hrejects issuer "e30" "c2ln" (by decide) (by decide)⟩,
    by decide +kernel, hkey,
    ⟨fault', hfault', hrejects' issuer "e30" "c2ln" (by decide) (by decide)⟩, hnamed,
    hforged hnamed issuer "!" "" (by decide) (by decide) (hunsigned _),
    hshort issuer "e30.e30" (by decide)⟩

end TokenService.Issuer
