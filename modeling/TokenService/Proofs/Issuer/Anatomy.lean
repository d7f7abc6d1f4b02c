import TokenService.Proofs.Issuer.Issued

/-!
# The anatomy of issued tokens

A token taken apart by others: split at its dots, and each of the three parts read on its own
(`Anatomy`). The first is the header of every token, the second the written form of the claims, and
the third the code of the two before it under the secret. A token with this anatomy is issued
whenever its expiry fits 64 bits, and otherwise the duration is out of range (`issueAt_anatomy`).
-/

set_option autoImplicit false
set_option relaxedAutoImplicit false

namespace TokenService.Issuer

open Token Text.Utf8
open Base64Url (IsSymbol)

/-- A character that a URL can hold as it is: a letter, a digit, a hyphen or an underscore. -/
def IsUrlSafe (character : Char) : Prop :=
  character.isAlphanum = true ∨ character = '-' ∨ character = '_'

/-- The parts of a token that carries some claims and is signed with a secret. -/
structure Anatomy (secret : Bytes) (claims : Claims) (token header payload signature : String) :
    Prop where
  parts : token.toList.splitOn '.' = [header.toList, payload.toList, signature.toList]
  nonempty : header ≠ "" ∧ payload ≠ "" ∧ signature ≠ ""
  urlSafe : ∀ character ∈ (header ++ payload ++ signature).toList, IsUrlSafe character
  headerBytes : Base64Url.decode (encode header) =
    .ok (asciiBytes "\x7b\"typ\":\"JWT\",\"alg\":\"HS256\"\x7d")
  payloadBytes : Base64Url.decode (encode payload) = .ok (encode claims.text)
  claims : Claims.parse (encode claims.text) = .ok claims
  signatureLength : signature.length = 43
  signatureBytes : Base64Url.decode (encode signature) =
    .ok (Digest.Hmac.code secret (encode (header ++ "." ++ payload))).toList

/-! ### Texts of segments -/

theorem toList_asciiText (bytes : Bytes) :
    (asciiText bytes).toList = bytes.map fun byte ↦ Char.ofNat byte.toNat :=
  String.toList_ofList

theorem not_isUrlSafe_dot : ¬IsUrlSafe '.' := by
  unfold IsUrlSafe
  decide

section Texts

variable {bytes : Bytes} (hbytes : ∀ byte ∈ bytes, IsSymbol byte)
include hbytes

theorem isUrlSafe_of_mem_asciiText {character : Char} (h : character ∈ (asciiText bytes).toList) :
    IsUrlSafe character := by
  rw [toList_asciiText] at h
  obtain ⟨byte, hbyte, rfl⟩ := List.mem_map.mp h
  obtain ⟨other, rfl, hother⟩ := hbytes byte hbyte
  have hsmall := Base64Url.toNat_lt_of_isAlphanum hother
  rwa [ascii, toNat_ofNat_of_lt (by omega), Char.ofNat_toNat]

theorem dot_not_mem_asciiText : '.' ∉ (asciiText bytes).toList :=
  fun hdot ↦ not_isUrlSafe_dot (isUrlSafe_of_mem_asciiText hbytes hdot)

theorem encode_asciiText_symbols : encode (asciiText bytes) = bytes :=
  encode_asciiText fun byte hbyte ↦ Base64Url.toNat_lt_of_isSymbol (hbytes byte hbyte)

end Texts

theorem length_asciiText (bytes : Bytes) : (asciiText bytes).length = bytes.length := by
  rw [← String.length_toList, toList_asciiText, List.length_map]

theorem asciiText_ne_empty {bytes : Bytes} (hbytes : bytes ≠ []) : asciiText bytes ≠ "" := by
  intro hempty
  have hlength := length_asciiText bytes
  rw [hempty, String.length_empty] at hlength
  exact hbytes (List.length_eq_zero_iff.mp hlength.symm)

/-- A token falls apart at its dots into the texts of its segments. -/
theorem splitOn_toBytes {segments : Segments} (halphabet : segments.InAlphabet) :
    (asciiText segments.toBytes).toList.splitOn '.' =
      [(asciiText segments.header).toList, (asciiText segments.payload).toList,
        (asciiText segments.signature).toList] := by
  have hjoined : (asciiText segments.toBytes).toList =
      ['.'].intercalate [(asciiText segments.header).toList, (asciiText segments.payload).toList,
        (asciiText segments.signature).toList] := by
    have hdot : Char.ofNat dot.toNat = '.' := by decide
    simp only [toList_asciiText, Segments.toBytes, Segments.message, List.map_append, List.map_cons,
      hdot, List.intercalate_cons_cons, List.intercalate_singleton, List.append_assoc,
      List.cons_append, List.nil_append]
  rw [hjoined]
  refine List.splitOn_intercalate '.' ?_ (List.cons_ne_nil _ _)
  simp only [List.forall_mem_cons]
  exact ⟨dot_not_mem_asciiText fun byte hbyte ↦ halphabet byte (Or.inl hbyte),
    dot_not_mem_asciiText fun byte hbyte ↦ halphabet byte (Or.inr (Or.inl hbyte)),
    dot_not_mem_asciiText fun byte hbyte ↦ halphabet byte (Or.inr (Or.inr hbyte)),
    List.forall_mem_nil _⟩

/-! ### Issued tokens -/

theorem encode_ne_nil {bytes : Bytes} (hbytes : bytes ≠ []) : Base64Url.encode bytes ≠ [] := by
  intro hnil
  have hlength := Base64Url.length_encode bytes
  have hpositive := List.length_pos_iff.mpr hbytes
  rw [hnil, List.length_nil] at hlength
  omega

theorem headerSegment_ne_nil : headerSegment ≠ [] := by
  have hbytes : asciiBytes Header.standardText ≠ [] := by decide +kernel
  exact encode_ne_nil hbytes

theorem payloadSegment_ne_nil (claims : Claims) : payloadSegment claims ≠ [] := by
  have hbytes : encode claims.text ≠ [] := by
    rw [Claims.encode_text]
    exact List.cons_ne_nil _ _
  exact encode_ne_nil hbytes

theorem decode_headerSegment : Base64Url.decode headerSegment =
    .ok (asciiBytes "\x7b\"typ\":\"JWT\",\"alg\":\"HS256\"\x7d") := by
  rw [headerSegment, Base64Url.decode_encode, Header.standardText]

section Written

variable (issuer : Issuer) (claims : Claims)

theorem encode_headerSegment : encode (asciiText headerSegment) = headerSegment :=
  encode_asciiText_symbols fun _ ↦ Base64Url.isSymbol_of_mem_encode

theorem encode_payloadSegment :
    encode (asciiText (payloadSegment claims)) = payloadSegment claims :=
  encode_asciiText_symbols fun _ ↦ Base64Url.isSymbol_of_mem_encode

theorem encode_signature : encode (asciiText (issuer.segments claims).signature) =
    (issuer.segments claims).signature :=
  encode_asciiText_symbols fun _ hbyte ↦ inAlphabet_segments _ (Or.inr (Or.inr hbyte))

/-- What is signed is the text before the last dot. -/
theorem encode_message :
    encode (asciiText headerSegment ++ "." ++ asciiText (payloadSegment claims)) =
      (issuer.segments claims).message := by
  rw [encode_join, encode_headerSegment, encode_payloadSegment, Segments.message, segments_header,
    segments_payload]

theorem splitOn_segments : (asciiText (issuer.segments claims).toBytes).toList.splitOn '.' =
    [(asciiText headerSegment).toList, (asciiText (payloadSegment claims)).toList,
      (asciiText (issuer.segments claims).signature).toList] := by
  rw [splitOn_toBytes inAlphabet_segments, segments_header, segments_payload]

end Written

theorem anatomy_segments (issuer : Issuer) {claims : Claims}
    (hfits : Decimal.Integer.Fits claims.expiry) :
    Anatomy issuer.secret claims (asciiText (issuer.segments claims).toBytes)
      (asciiText headerSegment) (asciiText (payloadSegment claims))
      (asciiText (issuer.segments claims).signature) := by
  have hlength : (issuer.segments claims).signature.length = 43 :=
    segments_signature ▸ length_sign issuer _
  refine ⟨splitOn_segments issuer claims, ?nonempty, ?urlSafe, ?headerBytes, ?payloadBytes,
    Claims.parse_text hfits, ?signatureLength, ?signatureBytes⟩
  case nonempty =>
    refine ⟨asciiText_ne_empty headerSegment_ne_nil,
      asciiText_ne_empty (payloadSegment_ne_nil claims), asciiText_ne_empty ?_⟩
    rw [← List.length_pos_iff, hlength]
    decide
  case urlSafe =>
    intro character hcharacter
    simp only [String.toList_append, List.mem_append] at hcharacter
    rcases hcharacter with (hheader | hpayload) | hsignature
    · exact isUrlSafe_of_mem_asciiText (fun _ ↦ Base64Url.isSymbol_of_mem_encode) hheader
    · exact isUrlSafe_of_mem_asciiText (fun _ ↦ Base64Url.isSymbol_of_mem_encode) hpayload
    · exact isUrlSafe_of_mem_asciiText
        (fun _ hbyte ↦ inAlphabet_segments _ (Or.inr (Or.inr hbyte))) hsignature
  case headerBytes => rw [encode_headerSegment, decode_headerSegment]
  case payloadBytes => rw [encode_payloadSegment, payloadSegment, Base64Url.decode_encode]
  case signatureLength => rw [length_asciiText, hlength]
  case signatureBytes =>
    rw [encode_signature, encode_message issuer, segments_signature, sign, Base64Url.decode_encode]

theorem fits_iff {value : Int} :
    Decimal.Integer.Fits value ↔ -2 ^ 63 ≤ value ∧ value ≤ 2 ^ 63 - 1 := by
  have hleast : Decimal.Integer.least = -2 ^ 63 := by decide
  have hgreatest : Decimal.Integer.greatest = 2 ^ 63 - 1 := by decide
  rw [Decimal.Integer.Fits, hleast, hgreatest]

/-- Issuing fails exactly if the expiry does not fit 64 bits, and then for the duration. Otherwise
the token has the anatomy of one that carries the standard claims of the user. -/
theorem issueAt_anatomy (issuer : Issuer) (user : String) (duration time : Int) :
    ((∃ refusal, issuer.issueAt user duration time = .error refusal) ↔
      ¬(-2 ^ 63 ≤ time + duration ∧ time + duration ≤ 2 ^ 63 - 1)) ∧
    (∀ refusal, issuer.issueAt user duration time = .error refusal →
      refusal = .outOfRange "duration") ∧
    ∀ token, issuer.issueAt user duration time = .ok token →
      ∃ header payload signature, Anatomy issuer.secret (.standard user (time + duration)) token
        header payload signature := by
  rw [← fits_iff]
  by_cases hfits : Decimal.Integer.Fits (time + duration)
  · rw [issueAt_of_fits issuer user hfits]
    refine ⟨iff_of_false nofun (not_not_intro hfits), nofun, fun token htoken ↦ ?_⟩
    rw [← Except.ok.inj htoken]
    exact ⟨_, _, _, @anatomy_segments issuer (.standard user (time + duration)) hfits⟩
  · rw [issueAt_of_not_fits issuer user hfits]
    exact ⟨iff_of_true ⟨_, rfl⟩ hfits, fun _ hrefusal ↦ (Except.error.inj hrefusal).symm, nofun⟩

/-- One second past the last there is no token, and at the first there is one for any user. -/
theorem issueAt_anatomy_limits :
    (Issuer.mk [0x73, 0xFF]).issueAt "erin" 1 9223372036854775807 =
      .error (.outOfRange "duration") ∧
    ∃ token header payload signature,
      (Issuer.mk [0x73, 0xFF]).issueAt "\"\\ü.\n" (-1) (-9223372036854775807) = .ok token ∧
      Anatomy [0x73, 0xFF] (.standard "\"\\ü.\n" (-9223372036854775807 + -1)) token header payload
        signature := by
  obtain ⟨hfails, hrefusal, -⟩ :=
    issueAt_anatomy (Issuer.mk [0x73, 0xFF]) "erin" 1 9223372036854775807
  obtain ⟨hissued, -, htoken⟩ :=
    issueAt_anatomy (Issuer.mk [0x73, 0xFF]) "\"\\ü.\n" (-1) (-9223372036854775807)
  constructor
  · obtain ⟨refusal, h⟩ := hfails.mpr (by decide)
    rwa [hrefusal refusal h] at h
  · cases h : (Issuer.mk [0x73, 0xFF]).issueAt "\"\\ü.\n" (-1) (-9223372036854775807) with
    | error refusal => exact absurd (by decide) (hissued.mp ⟨refusal, h⟩)
    | ok token =>
      obtain ⟨header, payload, signature, hanatomy⟩ := htoken token h
      exact ⟨token, header, payload, signature, rfl, hanatomy⟩

end TokenService.Issuer
