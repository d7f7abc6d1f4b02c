import TokenService.Environment
import TokenService.Proofs.Address.Parser
import TokenService.Proofs.Text.Utf8
import TokenService.Settings

/-!
# Loading settings

Once the secret has passed its checks, what comes of loading depends on the address alone
(`answered_load`). The variable that holds the address should be heeded if it is set (`Heeds`): the
service listens where its bytes say, or it does not start. It is heeded if the bytes are a text, in
any spelling of an address. Bytes that are no text are passed over, and the service listens where it
does if nothing is said (`loaded_listenAddress`), which nobody is told of.
-/

set_option autoImplicit false
set_option relaxedAutoImplicit false

namespace TokenService

open Text.Utf8 (encode decode?)

/-- The bytes that spell an address: those of a text that does. -/
def Address.SpelledBy (address : Address) (bytes : Bytes) : Prop :=
  ∃ text, encode text = bytes ∧ address.Spells text.toList

namespace Settings

variable {secret : String} {environment : Environment}

/-! ### What comes of loading -/

/-- What is reported about a secret of some number of bytes. -/
def lengthEvents (length : Nat) : List Event :=
  if length < recommendedLength then
    [⟨.warn, "jwt_generator::config", "JWT_SECRET is shorter than 32 bytes",
      [("len", .count length)]⟩]
  else []

theorem answered_load {source : String → Option String}
    (hsecret : checkSecret (source secretName) = .ok secret) : load.answered source =
      ⟨assemble secret (source addressName), lengthEvents (encode secret).length⟩ := by
  rw [load, Inquiry.answered, hsecret]
  rfl

theorem answered_load_of_fault {source : String → Option String} {fault : Fault}
    (hsecret : checkSecret (source secretName) = .error fault) :
    load.answered source = ⟨.error fault, []⟩ := by
  rw [load, Inquiry.answered, hsecret]
  rfl

section Addresses

variable {given : Option String}

theorem assemble_of_parse? (secret : String) {address : Address}
    (h : Address.parse? (given.getD defaultAddress) = some address) :
    assemble secret given = .ok ⟨secret, address⟩ := by
  delta assemble checkAddress
  dsimp only
  rw [h]

theorem assemble_of_parse?_eq_none (secret : String)
    (h : Address.parse? (given.getD defaultAddress) = none) :
    assemble secret given = .error (.invalidListenAddress (given.getD defaultAddress)) := by
  delta assemble checkAddress
  dsimp only
  rw [h]

end Addresses

/-- The address that the default spells. -/
def standardAddress : Address :=
  .v4 ⟨0, 0, 0, 0⟩ 3001

theorem assemble_none (secret : String) : assemble secret none = .ok ⟨secret, standardAddress⟩ :=
  assemble_of_parse? secret (by decide +kernel)

/-! ### The address of an environment -/

/-- The settings that a process with some variables starts with. -/
def loaded (environment : Environment) : Except Fault Settings :=
  (load.answered environment.text?).outcome

/-- What should come of an address that is set to some bytes: the address that they spell, or, where
they spell none, a fault that shows them. -/
inductive Heeds (secret : String) (bytes : Bytes) : Except Fault Settings → Prop
  | address {address : Address} (haddress : address.SpelledBy bytes) :
      Heeds secret bytes (.ok ⟨secret, address⟩)
  | fault {value : String} (hnone : ∀ address : Address, ¬ address.SpelledBy bytes)
      (hvalue : ∀ text, encode text = bytes → value = text) :
      Heeds secret bytes (.error (.invalidListenAddress value))

theorem heeds_assemble (secret text : String) :
    Heeds secret (encode text) (assemble secret (some text)) := by
  cases hparse : Address.parse? ((some text).getD defaultAddress) with
  | some address =>
    rw [assemble_of_parse? secret hparse]
    exact .address ⟨text, rfl, Address.parse?_eq_some_iff.mp hparse⟩
  | none =>
    rw [assemble_of_parse?_eq_none secret hparse]
    refine .fault ?_ fun other hother ↦ (Text.Utf8.encode_injective hother).symm
    rintro address ⟨other, hother, hspells⟩
    rw [Text.Utf8.encode_injective hother] at hspells
    exact absurd (hparse.symm.trans (Address.parse?_eq_some_iff.mpr hspells)) nofun

/-- The bytes of no text are not heeded by a service that starts. -/
theorem not_heeds_of_no_text {bytes : Bytes} (hbytes : ∀ text, encode text ≠ bytes)
    (settings : Settings) : ¬ Heeds secret bytes (.ok settings) := by
  intro h
  cases h with
  | address haddress =>
    obtain ⟨text, htext, -⟩ := haddress
    exact hbytes text htext

section Loaded

variable (hsecret : checkSecret (environment.text? secretName) = .ok secret)
include hsecret

theorem loaded_eq : loaded environment = assemble secret (environment.text? addressName) := by
  rw [loaded, answered_load hsecret]

/-- An address that is not set is the default, and one that is set is heeded if it is a text. One
that is set to the bytes of no text is replaced by the default. -/
theorem loaded_listenAddress :
    (environment.lookup addressName = none →
      loaded environment = .ok ⟨secret, standardAddress⟩) ∧
    (∀ text, environment.lookup addressName = some (encode text) →
      Heeds secret (encode text) (loaded environment)) ∧
    ∀ bytes, environment.lookup addressName = some bytes → (∀ text, encode text ≠ bytes) →
      loaded environment = .ok ⟨secret, standardAddress⟩ ∧
        ¬ Heeds secret bytes (loaded environment) := by
  rw [loaded_eq hsecret, Environment.text?]
  refine ⟨fun hlookup ↦ ?_, fun text hlookup ↦ ?_, fun bytes hlookup hbytes ↦ ?_⟩
  · rw [hlookup, Option.bind_none, assemble_none]
  · rw [hlookup, Option.bind_some, Text.Utf8.decode?_encode]
    exact heeds_assemble secret text
  · rw [hlookup, Option.bind_some, Text.Utf8.decode?_eq_none_iff.mpr hbytes, assemble_none]
    exact ⟨rfl, not_heeds_of_no_text hbytes _⟩

end Loaded

/-- Variables with an acceptable secret and an address. -/
def reasonableVariables (address : Bytes) : Environment :=
  [(secretName, encode "a-perfectly-reasonable-secret-value"), (addressName, address)]

/-- An address in an unusual spelling is heeded. -/
theorem loaded_listenAddress_loopback :
    checkSecret ((reasonableVariables (encode "[0:0::1%00]:08080")).text? secretName) =
      .ok "a-perfectly-reasonable-secret-value" ∧
    Heeds "a-perfectly-reasonable-secret-value" (encode "[0:0::1%00]:08080")
      (loaded (reasonableVariables (encode "[0:0::1%00]:08080"))) ∧
    loaded (reasonableVariables (encode "[0:0::1%00]:08080")) =
      .ok ⟨"a-perfectly-reasonable-secret-value", .v6 ⟨[0, 0, 0, 0, 0, 0, 0, 1], rfl⟩ 0 8080⟩ := by
  have hsecret : checkSecret ((reasonableVariables (encode "[0:0::1%00]:08080")).text?
      secretName) = .ok "a-perfectly-reasonable-secret-value" := by decide +kernel
  obtain ⟨-, hheeds, -⟩ := loaded_listenAddress hsecret
  exact ⟨hsecret, hheeds "[0:0::1%00]:08080" (by decide +kernel), by decide +kernel⟩

/-- A local address with a stray byte behind it is replaced by the default, and with it the service
listens to everyone. -/
theorem loaded_replaces_address :
    checkSecret ((reasonableVariables (encode "127.0.0.1:8080" ++ [0xFF])).text? secretName) =
      .ok "a-perfectly-reasonable-secret-value" ∧
    (reasonableVariables (encode "127.0.0.1:8080" ++ [0xFF])).lookup addressName =
      some (encode "127.0.0.1:8080" ++ [0xFF]) ∧
    loaded (reasonableVariables (encode "127.0.0.1:8080" ++ [0xFF])) =
      .ok ⟨"a-perfectly-reasonable-secret-value", standardAddress⟩ ∧
    ¬ Heeds "a-perfectly-reasonable-secret-value" (encode "127.0.0.1:8080" ++ [0xFF])
      (loaded (reasonableVariables (encode "127.0.0.1:8080" ++ [0xFF]))) := by
  have hloaded : loaded (reasonableVariables (encode "127.0.0.1:8080" ++ [0xFF])) =
      .ok ⟨"a-perfectly-reasonable-secret-value", standardAddress⟩ := by decide +kernel
  have hbytes : decode? (encode "127.0.0.1:8080" ++ [0xFF]) = none := by decide +kernel
  refine ⟨by decide +kernel, by decide +kernel, hloaded, ?_⟩
  rw [hloaded]
  exact not_heeds_of_no_text (Text.Utf8.decode?_eq_none_iff.mp hbytes) _

end Settings

end TokenService
