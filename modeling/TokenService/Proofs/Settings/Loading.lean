import TokenService.Proofs.Settings
import TokenService.Proofs.Text.Space

/-!
# The checks of loading

What comes of loading is told from two variables alone, without a word about how they are read. The
secret passes its checks (`Passes`) or fails one of them first (`SecretFault`). Behind a secret that
passes, the address is the default one or the one that is spelled (`ListensAt`), or it is what fails
(`FirstFault`). The address is asked for only then, and a short secret is reported whatever becomes
of the address (`load_checks_in_order`).
-/

set_option autoImplicit false
set_option relaxedAutoImplicit false

namespace TokenService.Settings

open Text.Space (AreBlank trim_eq_nil_iff)
open Text.Utf8 (encode utf8ByteSize_eq_length_encode)

/-! ### What should come of a source -/

/-- The secret of a source passes its checks: it is there, it is not all blank, and it is not the
one that everybody knows. -/
structure Passes (source : String → Option String) (secret : String) : Prop where
  given : source "JWT_SECRET" = some secret
  notBlank : ¬AreBlank secret.toList
  notKnown : secret ≠ "my-secret-key"

/-- The check of the secret that fails. -/
inductive SecretFault (source : String → Option String) : Fault → Prop
  | missing (hsecret : source "JWT_SECRET" = none) : SecretFault source .missingSecret
  | blank {secret : String} (hsecret : source "JWT_SECRET" = some secret)
      (hblank : AreBlank secret.toList) : SecretFault source .emptySecret
  | known (hsecret : source "JWT_SECRET" = some "my-secret-key") :
      SecretFault source (.insecureSecret "my-secret-key")

/-- The address to listen at: the one that is spelled, or the default one if nothing is said. -/
inductive ListensAt : Option String → Address → Prop
  | default : ListensAt none (.v4 ⟨0, 0, 0, 0⟩ 3001)
  | given {text : String} {address : Address} (hspells : address.Spells text.toList) :
      ListensAt (some text) address

/-- The first check that fails: one of the secret, or else that of the address. -/
inductive FirstFault (source : String → Option String) : Fault → Prop
  | secret {fault : Fault} (hsecret : SecretFault source fault) : FirstFault source fault
  | address {secret text : String} (hsecret : Passes source secret)
      (htext : source "LISTEN_ADDR" = some text)
      (hnone : ∀ address : Address, ¬address.Spells text.toList) :
      FirstFault source (.invalidListenAddress text)

/-- What is reported about a short secret. -/
def shortReport (length : Nat) : Event :=
  ⟨.warn, "jwt_generator::config", "JWT_SECRET is shorter than 32 bytes", [("len", .count length)]⟩

variable {source : String → Option String} {given : Option String} {secret : String}
  {address : Address} {fault : Fault} {settings : Settings}

theorem shortReport_injective : Function.Injective shortReport := by
  intro first second h
  simpa [shortReport] using h

/-! ### Secrets -/

theorem Passes.checkSecret_eq (h : Passes source secret) :
    checkSecret (source secretName) = .ok secret := by
  have hblank : ¬(Text.Space.trim secret.toList).isEmpty = true := by
    rw [List.isEmpty_iff, trim_eq_nil_iff]
    exact h.notBlank
  have hknown : ¬secret = wellKnownSecret := h.notKnown
  rw [show source secretName = some secret from h.given, checkSecret, if_neg hblank,
    if_neg hknown]

theorem SecretFault.checkSecret_eq (h : SecretFault source fault) :
    checkSecret (source secretName) = .error fault := by
  cases h with
  | missing hsecret => rw [show source secretName = none from hsecret, checkSecret]
  | @blank secret hsecret hblank =>
    rw [show source secretName = some secret from hsecret, checkSecret,
      trim_eq_nil_iff.mpr hblank]
    rfl
  | known hsecret =>
    rw [show source secretName = some wellKnownSecret from hsecret]
    decide +kernel

theorem passes_or_secretFault (source : String → Option String) :
    (∃ secret, Passes source secret) ∨ ∃ fault, SecretFault source fault := by
  cases hsecret : source "JWT_SECRET" with
  | none => exact Or.inr ⟨_, .missing hsecret⟩
  | some secret =>
    by_cases hblank : AreBlank secret.toList
    · exact Or.inr ⟨_, .blank hsecret hblank⟩
    · by_cases hknown : secret = "my-secret-key"
      · exact Or.inr ⟨_, .known (hknown ▸ hsecret)⟩
      · exact Or.inl ⟨secret, hsecret, hblank, hknown⟩

theorem SecretFault.not_passes (h : SecretFault source fault) :
    ¬∃ secret, Passes source secret :=
  fun ⟨_, hpasses⟩ ↦ nomatch h.checkSecret_eq.symm.trans hpasses.checkSecret_eq

theorem SecretFault.unique {other : Fault} (h : SecretFault source fault)
    (hother : SecretFault source other) : fault = other :=
  Except.error.inj (h.checkSecret_eq.symm.trans hother.checkSecret_eq)

theorem Passes.unique {other : String} (h : Passes source secret) (hother : Passes source other) :
    secret = other :=
  Except.ok.inj (h.checkSecret_eq.symm.trans hother.checkSecret_eq)

/-! ### Addresses -/

theorem listensAt_none_iff : ListensAt none address ↔ address = standardAddress := by
  constructor
  · intro h
    cases h
    rfl
  · rintro rfl
    exact .default

theorem listensAt_some_iff {text : String} :
    ListensAt (some text) address ↔ Address.parse? text = some address := by
  rw [Address.parse?_eq_some_iff]
  constructor
  · intro h
    cases h with
    | given hspells => exact hspells
  · exact .given

/-- Settings are made of a secret and the address to listen at. -/
theorem assemble_eq_ok_iff : assemble secret given = .ok settings ↔
    settings.secret = secret ∧ ListensAt given settings.listenAddress := by
  obtain ⟨kept, address⟩ := settings
  cases given with
  | none =>
    rw [assemble_none, listensAt_none_iff, Except.ok.injEq, Settings.mk.injEq]
    exact and_congr eq_comm eq_comm
  | some text =>
    rw [listensAt_some_iff]
    cases hparse : Address.parse? text with
    | none =>
      have hfault : assemble secret (some text) = .error (.invalidListenAddress text) :=
        assemble_of_parse?_eq_none secret hparse
      rw [hfault]
      exact iff_of_false nofun nofun
    | some found =>
      have hfound : assemble secret (some text) = .ok ⟨secret, found⟩ :=
        assemble_of_parse? secret hparse
      rw [hfound, Except.ok.injEq, Settings.mk.injEq, Option.some.injEq]
      exact and_congr eq_comm Iff.rfl

/-- Nothing but an address that no text spells keeps an acceptable secret from being used. -/
theorem assemble_eq_error_iff : assemble secret given = .error fault ↔
    ∃ text, given = some text ∧ (∀ address : Address, ¬address.Spells text.toList) ∧
      fault = .invalidListenAddress text := by
  constructor
  · intro h
    cases given with
    | none => exact nomatch (assemble_none secret).symm.trans h
    | some text =>
      cases hparse : Address.parse? text with
      | none =>
        refine ⟨text, rfl, fun address hspells ↦ ?_, ?_⟩
        · exact nomatch hparse.symm.trans (Address.parse?_eq_some_iff.mpr hspells)
        · exact Except.error.inj (h.symm.trans (assemble_of_parse?_eq_none secret hparse))
      | some found => exact nomatch h.symm.trans (assemble_of_parse? secret hparse)
  · rintro ⟨text, rfl, hnone, rfl⟩
    refine assemble_of_parse?_eq_none secret (Option.eq_none_iff_forall_ne_some.mpr ?_)
    exact fun address hparse ↦ hnone address (Address.parse?_eq_some_iff.mp hparse)

/-! ### Loading -/

theorem lengthEvents_eq (secret : String) : lengthEvents (encode secret).length =
    if secret.utf8ByteSize < 32 then [shortReport secret.utf8ByteSize] else [] := by
  rw [← utf8ByteSize_eq_length_encode, lengthEvents, recommendedLength]
  rfl

section Passed

variable (hpasses : Passes source secret)
include hpasses

theorem Passes.answered_load : load.answered source =
    ⟨assemble secret (source "LISTEN_ADDR"),
      if secret.utf8ByteSize < 32 then [shortReport secret.utf8ByteSize] else []⟩ := by
  rw [← lengthEvents_eq]
  exact Settings.answered_load hpasses.checkSecret_eq

theorem Passes.asked_load : load.asked source = ["JWT_SECRET", "LISTEN_ADDR"] := by
  rw [load, Inquiry.asked, hpasses.checkSecret_eq]
  rfl

theorem Passes.firstFault_iff : FirstFault source fault ↔
    ∃ text, source "LISTEN_ADDR" = some text ∧
      (∀ address : Address, ¬address.Spells text.toList) ∧ fault = .invalidListenAddress text := by
  constructor
  · intro h
    cases h with
    | secret hsecret => exact absurd ⟨secret, hpasses⟩ hsecret.not_passes
    | @address _ text _ htext hnone => exact ⟨text, htext, hnone, rfl⟩
  · rintro ⟨text, htext, hnone, rfl⟩
    exact .address hpasses htext hnone

end Passed

section Failed

variable (hfault : SecretFault source fault)
include hfault

theorem SecretFault.answered_load : load.answered source = ⟨.error fault, []⟩ :=
  answered_load_of_fault hfault.checkSecret_eq

theorem SecretFault.asked_load : load.asked source = ["JWT_SECRET"] := by
  rw [load, Inquiry.asked, hfault.checkSecret_eq]
  rfl

theorem SecretFault.firstFault_iff {other : Fault} : FirstFault source other ↔ fault = other := by
  constructor
  · intro h
    cases h with
    | secret hother => exact hfault.unique hother
    | address hpasses => exact absurd ⟨_, hpasses⟩ hfault.not_passes
  · rintro rfl
    exact .secret hfault

end Failed

theorem passes_iff {other : String} (h : Passes source secret) :
    Passes source other ↔ other = secret :=
  ⟨fun hother ↦ hother.unique h, fun hother ↦ hother ▸ h⟩

theorem asked_load_iff (source : String → Option String) :
    (load.asked source = ["JWT_SECRET", "LISTEN_ADDR"] ↔ ∃ secret, Passes source secret) ∧
      (load.asked source = ["JWT_SECRET"] ↔ ¬∃ secret, Passes source secret) := by
  obtain ⟨secret, hpasses⟩ | ⟨fault, hfault⟩ := passes_or_secretFault source
  · rw [hpasses.asked_load]
    exact ⟨iff_of_true rfl ⟨secret, hpasses⟩, iff_of_false nofun fun h ↦ h ⟨secret, hpasses⟩⟩
  · rw [hfault.asked_load]
    exact ⟨iff_of_false nofun hfault.not_passes, iff_of_true rfl hfault.not_passes⟩

theorem outcome_eq_ok_iff : (load.answered source).outcome = .ok settings ↔
    Passes source settings.secret ∧ ListensAt (source "LISTEN_ADDR") settings.listenAddress := by
  obtain ⟨secret, hpasses⟩ | ⟨fault, hfault⟩ := passes_or_secretFault source
  · rw [hpasses.answered_load, assemble_eq_ok_iff, passes_iff hpasses]
  · rw [hfault.answered_load]
    exact iff_of_false nofun fun h ↦ hfault.not_passes ⟨_, h.1⟩

/-- The settings tell what was reported on the way. -/
theorem answered_of_outcome (hload : (load.answered source).outcome = .ok settings) :
    load.answered source = ⟨.ok settings, if settings.secret.utf8ByteSize < 32 then
      [shortReport settings.secret.utf8ByteSize] else []⟩ := by
  obtain ⟨hpasses, -⟩ := outcome_eq_ok_iff.mp hload
  rw [hpasses.answered_load] at hload ⊢
  rw [show assemble settings.secret (source "LISTEN_ADDR") = .ok settings from hload]

theorem outcome_eq_error_iff :
    (load.answered source).outcome = .error fault ↔ FirstFault source fault := by
  obtain ⟨secret, hpasses⟩ | ⟨other, hother⟩ := passes_or_secretFault source
  · rw [hpasses.answered_load, assemble_eq_error_iff, hpasses.firstFault_iff]
  · rw [hother.answered_load, hother.firstFault_iff, Except.error.injEq]

/-- A short secret that passes its checks is reported once, whatever becomes of the address. -/
theorem events_eq_singleton_iff {length : Nat} :
    (load.answered source).events = [shortReport length] ↔
      ∃ secret, Passes source secret ∧ secret.utf8ByteSize = length ∧ length < 32 := by
  obtain ⟨secret, hpasses⟩ | ⟨fault, hfault⟩ := passes_or_secretFault source
  · rw [hpasses.answered_load]
    dsimp only
    constructor
    · intro h
      split_ifs at h with hshort
      have hlength := shortReport_injective (List.singleton_inj.mp h)
      exact ⟨secret, hpasses, hlength, hlength ▸ hshort⟩
    · rintro ⟨other, hother, rfl, hshort⟩
      obtain rfl := hpasses.unique hother
      rw [if_pos hshort]
  · rw [hfault.answered_load]
    exact iff_of_false nofun fun ⟨secret, hpasses, _⟩ ↦ hfault.not_passes ⟨secret, hpasses⟩

theorem events_eq_nil_iff : (load.answered source).events = [] ↔
    ¬∃ secret, Passes source secret ∧ secret.utf8ByteSize < 32 := by
  obtain ⟨secret, hpasses⟩ | ⟨fault, hfault⟩ := passes_or_secretFault source
  · rw [hpasses.answered_load]
    dsimp only
    constructor
    · rintro h ⟨other, hother, hshort⟩
      obtain rfl := hpasses.unique hother
      rw [if_pos hshort] at h
      exact List.cons_ne_nil _ _ h
    · intro h
      rw [if_neg fun hshort ↦ h ⟨secret, hpasses, hshort⟩]
  · rw [hfault.answered_load]
    exact iff_of_true rfl fun ⟨secret, hpasses, _⟩ ↦ hfault.not_passes ⟨secret, hpasses⟩

/-- The secret is asked for first, and the address exactly if the secret passes its checks. Settings
come of it exactly if the address can be listened at too, and otherwise the first fault. A short
secret that passes is reported once, by its length in bytes, and nothing else is ever reported. -/
theorem load_checks_in_order (source : String → Option String) :
    ((load.asked source = ["JWT_SECRET", "LISTEN_ADDR"] ↔ ∃ secret, Passes source secret) ∧
      (load.asked source = ["JWT_SECRET"] ↔ ¬∃ secret, Passes source secret)) ∧
    (∀ settings, (load.answered source).outcome = .ok settings ↔
      Passes source settings.secret ∧
        ListensAt (source "LISTEN_ADDR") settings.listenAddress) ∧
    (∀ fault, (load.answered source).outcome = .error fault ↔ FirstFault source fault) ∧
    (∀ length, (load.answered source).events = [shortReport length] ↔
      ∃ secret, Passes source secret ∧ secret.utf8ByteSize = length ∧ length < 32) ∧
    ((load.answered source).events = [] ↔
      ¬∃ secret, Passes source secret ∧ secret.utf8ByteSize < 32) :=
  ⟨asked_load_iff source, fun _ ↦ outcome_eq_ok_iff, fun _ ↦ outcome_eq_error_iff,
    fun _ ↦ events_eq_singleton_iff, events_eq_nil_iff⟩

/-- A secret like the known one, of 13 characters and 15 bytes, in front of a bad address. -/
example :
    let loading := load.answered fun name ↦
      if name = "JWT_SECRET" then some "mý-sécret-key" else some " [::]:1"
    loading.outcome = .error (.invalidListenAddress " [::]:1") ∧
      loading.events = [shortReport 15] := by
  decide +kernel

end TokenService.Settings
