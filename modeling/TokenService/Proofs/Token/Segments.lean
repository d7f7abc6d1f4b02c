import Mathlib.Tactic.ByContra
import TokenService.Proofs.Base64Url
import TokenService.Token.Segments

/-!
# Segments put together and taken apart

A token is cut at its last two dots, so the segments come back from the token they make as long as
the payload and the signature have no dot, and no cut yields a payload or a signature that has one.
Segments in the alphabet of base64 (`InAlphabet`) have no dot at all: their token is a text whose
only dots are the two between them.
-/

set_option autoImplicit false
set_option relaxedAutoImplicit false

namespace TokenService.Token

theorem splitLast?_eq_none_iff {bytes : Bytes} : splitLast? bytes = none ↔ dot ∉ bytes := by
  induction bytes with
  | nil => simp [splitLast?]
  | cons byte rest ih =>
    rw [splitLast?]
    cases hrest : splitLast? rest with
    | some parts =>
      have hdot : dot ∈ rest := by
        by_contra hnone
        rw [ih.mpr hnone] at hrest
        cases hrest
      simp [hdot]
    | none =>
      have hdot := ih.mp hrest
      by_cases hbyte : byte = dot
      · simp [hbyte]
      · simp [hbyte, hdot, Ne.symm hbyte]

theorem splitLast?_append (before : Bytes) {after : Bytes} (hafter : dot ∉ after) :
    splitLast? (before ++ dot :: after) = some (before, after) := by
  induction before with
  | nil => rw [List.nil_append, splitLast?, splitLast?_eq_none_iff.mpr hafter, if_pos rfl]
  | cons byte before ih => rw [List.cons_append, splitLast?, ih]

theorem eq_append_of_splitLast? {bytes before after : Bytes}
    (h : splitLast? bytes = some (before, after)) :
    bytes = before ++ dot :: after ∧ dot ∉ after := by
  induction bytes generalizing before with
  | nil => cases h
  | cons byte rest ih =>
    rw [splitLast?] at h
    cases hrest : splitLast? rest with
    | some parts =>
      rw [hrest] at h
      simp only [Option.some.injEq, Prod.mk.injEq] at h
      obtain ⟨hbefore, hafter⟩ := h
      have hparts : splitLast? rest = some (parts.1, after) := by rw [hrest, ← hafter]
      obtain ⟨hcut, hdot⟩ := ih hparts
      exact ⟨by rw [← hbefore, hcut, List.cons_append], hdot⟩
    | none =>
      rw [hrest] at h
      dsimp only at h
      split at h
      · next hbyte =>
        simp only [Option.some.injEq, Prod.mk.injEq] at h
        obtain ⟨hbefore, hafter⟩ := h
        rw [← hbefore, ← hafter, hbyte]
        exact ⟨rfl, splitLast?_eq_none_iff.mp hrest⟩
      · cases h

theorem encode_join (front back : String) : Text.Utf8.encode (front ++ "." ++ back) =
    Text.Utf8.encode front ++ dot :: Text.Utf8.encode back := by
  have hdot : Text.Utf8.encode "." = [dot] := rfl
  rw [Text.Utf8.encode_append, Text.Utf8.encode_append, hdot, List.append_assoc,
    List.singleton_append]

namespace Segments

/-- Segments come back from the token that they make. -/
theorem ofBytes?_toBytes {segments : Segments} (hpayload : dot ∉ segments.payload)
    (hsignature : dot ∉ segments.signature) : ofBytes? segments.toBytes = some segments := by
  rw [ofBytes?, toBytes, splitLast?_append _ hsignature]
  dsimp only
  rw [message, splitLast?_append _ hpayload]

/-- Only a text with fewer than two dots is not cut into segments. -/
theorem ofBytes?_eq_none_iff {bytes : Bytes} : ofBytes? bytes = none ↔ bytes.count dot < 2 := by
  unfold ofBytes?
  split
  · next hnone =>
    have hcount := List.count_eq_zero.mpr (splitLast?_eq_none_iff.mp hnone)
    simp [hcount]
  · next message signature hlast =>
    obtain ⟨rfl, hsignature⟩ := eq_append_of_splitLast? hlast
    rw [List.count_append, List.count_cons_self, List.count_eq_zero.mpr hsignature]
    split
    · next hnone =>
      rw [splitLast?_eq_none_iff] at hnone
      simp [List.count_eq_zero.mpr hnone]
    · next header payload hfirst =>
      obtain ⟨rfl, -⟩ := eq_append_of_splitLast? hfirst
      have hcount : 0 < (header ++ dot :: payload).count dot :=
        List.count_pos_iff.mpr (List.mem_append_right _ List.mem_cons_self)
      exact iff_of_false nofun (by omega)

/-- The token of the segments that a token was cut into is this token. -/
theorem toBytes_of_ofBytes? {bytes : Bytes} {segments : Segments}
    (h : ofBytes? bytes = some segments) :
    segments.toBytes = bytes ∧ dot ∉ segments.payload ∧ dot ∉ segments.signature := by
  unfold ofBytes? at h
  split at h
  · cases h
  · next message signature hlast =>
    obtain ⟨hbytes, hsignature⟩ := eq_append_of_splitLast? hlast
    split at h
    · cases h
    · next header payload hfirst =>
      obtain ⟨hmessage, hpayload⟩ := eq_append_of_splitLast? hfirst
      rw [← Option.some.inj h]
      refine ⟨?_, hpayload, hsignature⟩
      rw [hbytes, hmessage]
      rfl

/-! ### Segments in the alphabet -/

/-- All three segments consist of letters, digits, `-` and `_`. -/
def InAlphabet (segments : Segments) : Prop :=
  ∀ byte, byte ∈ segments.header ∨ byte ∈ segments.payload ∨ byte ∈ segments.signature →
    Base64Url.IsSymbol byte

section Alphabet

open Base64Url Text.Utf8

variable {segments : Segments} (halphabet : segments.InAlphabet)
include halphabet

theorem toNat_lt_of_mem_toBytes : ∀ byte ∈ segments.toBytes, byte.toNat < 0x80 := by
  intro byte hbyte
  rw [toBytes, message] at hbyte
  simp only [List.mem_append, List.mem_cons] at hbyte
  rcases hbyte with (hheader | hdot | hpayload) | hdot | hsignature
  · exact toNat_lt_of_isSymbol (halphabet byte (Or.inl hheader))
  · exact hdot ▸ by decide
  · exact toNat_lt_of_isSymbol (halphabet byte (Or.inr (Or.inl hpayload)))
  · exact hdot ▸ by decide
  · exact toNat_lt_of_isSymbol (halphabet byte (Or.inr (Or.inr hsignature)))

theorem ofBytes?_encode_asciiText :
    ofBytes? (encode (asciiText segments.toBytes)) = some segments := by
  rw [encode_asciiText (toNat_lt_of_mem_toBytes halphabet)]
  refine ofBytes?_toBytes (fun hpayload ↦ ?_) (fun hsignature ↦ ?_)
  · exact not_isSymbol_dot (halphabet _ (Or.inr (Or.inl hpayload)))
  · exact not_isSymbol_dot (halphabet _ (Or.inr (Or.inr hsignature)))

/-- The token of segments in the alphabet has the dots between them and no others. -/
theorem count_dot {token : String} (htoken : segments.toBytes = encode token) :
    token.toList.count '.' = 2 := by
  have hnone : ∀ part : Bytes, (∀ byte ∈ part, IsSymbol byte) → part.count dot = 0 :=
    fun part hpart ↦ List.count_eq_zero.mpr fun hdot ↦ not_isSymbol_dot (hpart dot hdot)
  have hascii := toNat_lt_of_mem_toBytes halphabet
  rw [htoken] at hascii
  have hbytes : token.toList.count '.' = (encode token).count dot := by
    conv => lhs; rw [← asciiText_encode hascii]
    exact count_toList_asciiText '.' (by decide) _
  rw [hbytes, ← htoken, toBytes, message, List.count_append, List.count_append,
    List.count_cons_self, List.count_cons_self,
    hnone _ fun byte hbyte ↦ halphabet byte (Or.inl hbyte),
    hnone _ fun byte hbyte ↦ halphabet byte (Or.inr (Or.inl hbyte)),
    hnone _ fun byte hbyte ↦ halphabet byte (Or.inr (Or.inr hbyte))]

end Alphabet

end Segments

end TokenService.Token
