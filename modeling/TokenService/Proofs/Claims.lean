import TokenService.Claims
import TokenService.Proofs.Token.Registered

/-!
# Written claims read back

The written form of claims is an object of three members (`encode_text`). Whatever the subject
holds, it stays inside its string, so the members behind it are read for what they are: the claims
come back as they were (`parse_text`), and read as registered claims the same text has the expiry,
if it is a natural number, a subject, and no audience (`parse_text_registered`).
-/

set_option autoImplicit false
set_option relaxedAutoImplicit false

namespace TokenService.Claims

open Json Text.Utf8 Token

/-- Claims could be those of an issued token exactly if they name the channels of one. -/
theorem isStandard_iff {claims : Claims} :
    claims.isStandard = true ↔ claims.channels = standardChannels := by
  obtain ⟨subject, expiry, channels⟩ := claims
  simp [isStandard, standard]

/-! ### One claim -/

section Readers

variable {claims changed : Claims} {bytes rest : Bytes}

theorem readClaim_sub_iff : claims.readClaim "sub" bytes = .ok (changed, rest) ↔
    ∃ subject, readText bytes = .ok (subject, rest) ∧ changed = { claims with subject } := by
  unfold readClaim
  grind

theorem readClaim_exp_iff : claims.readClaim "exp" bytes = .ok (changed, rest) ↔
    ∃ expiry, readInteger bytes = .ok (expiry, rest) ∧ changed = { claims with expiry } := by
  unfold readClaim
  grind

theorem readClaim_channels_iff : claims.readClaim "channels" bytes = .ok (changed, rest) ↔
    ∃ channels, readTextList bytes = .ok (channels, rest) ∧ changed = { claims with channels } := by
  unfold readClaim
  grind

/-- Whatever a claim is read from is passed over alike. -/
theorem skippedAlike_readClaim (claims : Claims) (name : String) :
    SkippedAlike (claims.readClaim name) := by
  intro bytes changed rest h
  unfold readClaim at h
  split at h
  · split at h
    · cases h
    · next hread =>
      rw [Except.ok.injEq, Prod.mk.injEq] at h
      exact skippedAlike_readText (h.2 ▸ hread)
  · split at h
    · split at h
      · cases h
      · next hread =>
        rw [Except.ok.injEq, Prod.mk.injEq] at h
        exact skippedAlike_readInteger (h.2 ▸ hread)
    · split at h
      · cases h
      · next hread =>
        rw [Except.ok.injEq, Prod.mk.injEq] at h
        exact skippedAlike_readTextList (h.2 ▸ hread)

end Readers

/-! ### The members -/

/-- The bytes of a key and its colon in front of a value. -/
def keyBytes (name : String) : Bytes :=
  (renderText name).flatMap encodeChar ++ [ascii ':']

/-- The bytes of the written members from behind the bracket. -/
def memberBytes (claims : Claims) : Bytes :=
  keyBytes "sub" ++ ((renderText claims.subject).flatMap encodeChar ++
    (ascii ',' :: (keyBytes "exp" ++ ((Decimal.Integer.render claims.expiry).flatMap encodeChar ++
      (ascii ',' :: (keyBytes "channels" ++ ((renderTexts claims.channels).flatMap encodeChar ++
        [ascii '\x7d'])))))))

theorem encode_text (claims : Claims) :
    encode claims.text = ascii '\x7b' :: claims.memberBytes := by
  have hsub : "\x7b\"sub\":".toList.flatMap encodeChar = ascii '\x7b' :: keyBytes "sub" := by
    decide +kernel
  have hexp : ",\"exp\":".toList.flatMap encodeChar = ascii ',' :: keyBytes "exp" := by
    decide +kernel
  have hchannels : ",\"channels\":".toList.flatMap encodeChar =
      ascii ',' :: keyBytes "channels" := by
    decide +kernel
  have hclose : ['\x7d'].flatMap encodeChar = [ascii '\x7d'] := rfl
  rw [encode, text, String.toList_ofList]
  unfold render memberBytes
  simp only [List.flatMap_append, hsub, hexp, hchannels, hclose, List.append_assoc,
    List.cons_append]

theorem readMember_key {α : Type} {read : Bytes → Reading α} {value : α} {bytes rest : Bytes}
    (h : read bytes = .ok (value, rest)) :
    readMember read (ascii ':' :: bytes) = .ok (value, rest) :=
  readMember_iff.mpr ⟨bytes, rfl, h⟩

/-- A record is read from the written members one after another. -/
theorem readMembers_memberBytes {σ : Type} {record : Record σ} {claims : Claims}
    {start first second third : Draft σ}
    (hsub : ∀ rest, record.readField start "sub"
      (ascii ':' :: ((renderText claims.subject).flatMap encodeChar ++ rest)) = .ok (first, rest))
    (hexp : ∀ rest, EndsNumber rest → record.readField first "exp"
      (ascii ':' :: ((Decimal.Integer.render claims.expiry).flatMap encodeChar ++ rest)) =
        .ok (second, rest))
    (hchannels : ∀ rest, record.readField second "channels"
      (ascii ':' :: ((renderTexts claims.channels).flatMap encodeChar ++ rest)) =
        .ok (third, rest)) :
    record.readMembers true start claims.memberBytes = .ok (third, []) := by
  have hends : ∀ rest, EndsNumber (ascii ',' :: rest) := fun _ ↦ ⟨rfl, rfl⟩
  simp only [memberBytes, keyBytes, List.append_assoc]
  refine Record.readMembers_of_member (nextMember_renderText "sub" _) (hsub _) ?_
  refine Record.readMembers_of_member (nextMember_comma_renderText "exp" _) (hexp _ (hends _)) ?_
  refine Record.readMembers_of_member (nextMember_comma_renderText "channels" _) (hchannels _) ?_
  exact Record.readMembers_iff.mpr (Or.inl ⟨rfl, rfl⟩)

theorem parse_of_memberBytes {σ : Type} {record : Record σ} {claims : Claims} {draft : Draft σ}
    (hmembers : record.readMembers true ⟨[], record.start⟩ claims.memberBytes = .ok (draft, []))
    (hrequired : ∀ name ∈ record.required, name ∈ draft.seen) :
    record.parse (encode claims.text) = .ok draft.value :=
  Record.parse_iff.mpr (Or.inr ⟨claims.memberBytes, draft, [],
    by rw [encode_text]; rfl, hmembers, hrequired, rfl, rfl⟩)

/-! ### The two readings -/

variable {claims : Claims} (hfits : Decimal.Integer.Fits claims.expiry)
include hfits

/-- The claims of a written text are the claims that were written. -/
theorem parse_text : parse (encode claims.text) = .ok claims := by
  have hrequired : ∀ name ∈ record.required, name ∈ ["channels", "exp", "sub"] := by decide
  refine @parse_of_memberBytes _ record claims ⟨_, claims⟩ ?_ hrequired
  refine @readMembers_memberBytes _ record claims _ ⟨["sub"], ⟨claims.subject, 0, []⟩⟩
    ⟨["exp", "sub"], ⟨claims.subject, claims.expiry, []⟩⟩ _ (fun rest ↦ ?_) (fun rest hrest ↦ ?_)
    (fun rest ↦ ?_)
  · refine Record.readField_iff.mpr (Or.inl ⟨by decide, by simp, _, readMember_key ?_, rfl⟩)
    exact readClaim_sub_iff.mpr ⟨_, readText_renderText claims.subject rest, rfl⟩
  · refine Record.readField_iff.mpr (Or.inl ⟨by decide, by simp, _, readMember_key ?_, rfl⟩)
    exact readClaim_exp_iff.mpr ⟨_, readInteger_render hfits hrest, rfl⟩
  · refine Record.readField_iff.mpr (Or.inl ⟨by decide, by simp, _, readMember_key ?_, rfl⟩)
    exact readClaim_channels_iff.mpr ⟨_, readTextList_renderTexts claims.channels rest, rfl⟩

/-- As registered claims a written text has an expiry from the epoch on, a subject and no audience.
-/
theorem parse_text_registered : Registered.parse (encode claims.text) =
    .ok ⟨Registered.momentOf claims.expiry, true, false⟩ := by
  refine @parse_of_memberBytes _ Registered.record claims
    ⟨["exp", "sub"], ⟨Registered.momentOf claims.expiry, true, false⟩⟩ ?_
    (fun _ hnone ↦ absurd hnone List.not_mem_nil)
  refine @readMembers_memberBytes _ Registered.record claims _ ⟨["sub"], ⟨none, true, false⟩⟩
    ⟨["exp", "sub"], ⟨Registered.momentOf claims.expiry, true, false⟩⟩ _ (fun rest ↦ ?_)
    (fun rest hrest ↦ ?_) (fun rest ↦ ?_)
  · refine Record.readField_iff.mpr (Or.inl ⟨by decide, by decide, _, readMember_key ?_, rfl⟩)
    exact (Registered.readClaim_sub _ _).trans
      (by rw [Registered.readSubject_of_readText (readText_renderText claims.subject rest)]; rfl)
  · refine Record.readField_iff.mpr (Or.inl ⟨by decide, by decide, _, readMember_key ?_, rfl⟩)
    exact (Registered.readClaim_exp _ _).trans
      (by rw [Registered.readMoment_of_readInteger (readInteger_render hfits hrest)])
  · refine Record.readField_iff.mpr (Or.inr ⟨by decide, readMember_key ?_, rfl⟩)
    exact skippedAlike_readTextList (readTextList_renderTexts claims.channels rest)

end TokenService.Claims
