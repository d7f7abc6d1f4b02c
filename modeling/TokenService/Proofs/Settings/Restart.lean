import Mathlib.Logic.Function.Basic
import TokenService.Proofs.Address.Printer
import TokenService.Proofs.Settings.Loading
import TokenService.Proofs.Startup

/-!
# Starting anew at the logged address

A service that has started says where it listens. With this text for its address it loads the same
settings again and reports the same (`answered_withAddress_text`), so a process with the variables
that the first one had and the address from its log starts just as the first one did
(`Startup.launch_of_report`). Whatever the texts are that two services were given for their
addresses, they say the same exactly if the texts spell the same address
(`restart_at_logged_address`).
-/

set_option autoImplicit false
set_option relaxedAutoImplicit false

namespace TokenService

open Text.Utf8 (encode)

namespace Settings

/-- A source with some text for the address. -/
def withAddress (source : String → Option String) (text : String) : String → Option String :=
  Function.update source "LISTEN_ADDR" (some text)

variable {source : String → Option String} {text secret : String} {address : Address}
  {settings : Settings}

theorem passes_withAddress_iff :
    Passes (withAddress source text) secret ↔ Passes source secret := by
  have hother : withAddress source text "JWT_SECRET" = source "JWT_SECRET" :=
    Function.update_of_ne (by decide) _ _
  exact ⟨fun h ↦ ⟨hother ▸ h.given, h.notBlank, h.notKnown⟩,
    fun h ↦ ⟨hother.symm ▸ h.given, h.notBlank, h.notKnown⟩⟩

/-- With another text for the address the settings are those of the address that it spells. -/
theorem outcome_withAddress_iff (hload : (load.answered source).outcome = .ok settings) :
    (load.answered (withAddress source text)).outcome = .ok ⟨settings.secret, address⟩ ↔
      address.Spells text.toList := by
  obtain ⟨hpasses, -⟩ := outcome_eq_ok_iff.mp hload
  rw [outcome_eq_ok_iff, passes_withAddress_iff, withAddress, Function.update_self,
    listensAt_some_iff, Address.parse?_eq_some_iff]
  exact and_iff_right hpasses

/-- With the written form of the address in its place nothing changes. -/
theorem answered_withAddress_text (hload : (load.answered source).outcome = .ok settings) :
    load.answered (withAddress source settings.listenAddress.text) = load.answered source := by
  have hsame := (outcome_withAddress_iff hload).mpr settings.listenAddress.spells_text
  rw [answered_of_outcome hload, answered_of_outcome hsame]

theorem spells_of_outcome_withAddress
    (hload : (load.answered (withAddress source text)).outcome = .ok settings) :
    settings.listenAddress.Spells text.toList := by
  obtain ⟨-, hlistens⟩ := outcome_eq_ok_iff.mp hload
  rwa [withAddress, Function.update_self, listensAt_some_iff, Address.parse?_eq_some_iff]
    at hlistens

end Settings

namespace Startup

variable {source : String → Option String} {settings : Settings} {text : String}

theorem report_injective : Function.Injective report := by
  intro first second h
  simpa [report] using h

section Outcomes

variable (houtcome : (launchWith source).outcome = .ok settings)
include houtcome

/-- What a service that listens says is that it does, at the written form of its address. -/
theorem eq_text_of_report_mem (hreport : report ("JWT generator listening on http://" ++ text) ∈
    (launchWith source).events) : text = settings.listenAddress.text := by
  rw [outcome_launchWith] at houtcome
  rw [launchWith_of_settings houtcome, List.mem_append, listening, List.mem_pair] at hreport
  rcases hreport with hloading | hlistening | husage
  · cases Settings.level_of_mem_load hloading
  · exact (String.append_right_inj _).mp (report_injective hlistening)
  · have hfirst := congrArg (fun message ↦ message.toList.head?) (report_injective husage)
    simp only [String.toList_append, List.append_assoc] at hfirst
    exact absurd hfirst (by simp)

/-- With the written form of the address among its values a run begins alike. -/
theorem launchWith_withAddress :
    launchWith (Settings.withAddress source settings.listenAddress.text) = launchWith source := by
  rw [outcome_launchWith] at houtcome
  have hload := Settings.answered_withAddress_text houtcome
  have hfilter : Settings.withAddress source settings.listenAddress.text "RUST_LOG" =
      source "RUST_LOG" := Function.update_of_ne (by decide) _ _
  rw [launchWith_of_settings houtcome, launchWith_of_settings (hload ▸ houtcome), hload, hfilter]

end Outcomes

theorem launch_withAddress (environment : Environment) (text : String) :
    launch (("LISTEN_ADDR", encode text) :: environment) none =
      .ok (launchWith (Settings.withAddress environment.text? text)) := by
  refine launch_eq_ok_iff.mpr ⟨_, rfl, congrArg launchWith (funext fun name ↦ ?_)⟩
  rw [Environment.text?_cons, Settings.withAddress, Function.update_apply]

/-- A process with the same variables and the address from the log starts alike. -/
theorem launch_of_report {environment : Environment} {file : Option Bytes} {start : Launch}
    (hlaunch : launch environment file = .ok start) (houtcome : start.outcome = .ok settings)
    (hreport : report ("JWT generator listening on http://" ++ text) ∈ start.events) :
    ∃ extended, surroundings environment file = .ok extended ∧
      launch (("LISTEN_ADDR", encode text) :: extended) none = .ok start := by
  obtain ⟨extended, hextended, rfl⟩ := launch_eq_ok_iff.mp hlaunch
  refine ⟨extended, hextended, ?_⟩
  rw [launch_withAddress, eq_text_of_report_mem houtcome hreport, launchWith_withAddress houtcome]

open Settings (load withAddress)

/-- Whatever texts spell the addresses, settings that were loaded are loaded again with the written
form of their address, which two of them share exactly if the texts spell one address. A process
that is started anew at the address from its log starts as it did before. -/
theorem restart_at_logged_address :
    (∀ source settings, (load.answered source).outcome = .ok settings →
      load.answered (withAddress source settings.listenAddress.text) = load.answered source) ∧
    (∀ source settings text address, (load.answered source).outcome = .ok settings →
      ((load.answered (withAddress source text)).outcome = .ok ⟨settings.secret, address⟩ ↔
        address.Spells text.toList)) ∧
    (∀ source target first second one other,
      (load.answered (withAddress source first)).outcome = .ok one →
      (load.answered (withAddress target second)).outcome = .ok other →
        (one.listenAddress.text = other.listenAddress.text ↔
          ∃ address : Address, address.Spells first.toList ∧ address.Spells second.toList)) ∧
    ∀ environment file start settings text, launch environment file = .ok start →
      start.outcome = .ok settings →
      report ("JWT generator listening on http://" ++ text) ∈ start.events →
        ∃ extended, surroundings environment file = .ok extended ∧
          launch (("LISTEN_ADDR", encode text) :: extended) none = .ok start := by
  refine ⟨?_, ?_, ?_, ?_⟩
  · intro source settings hload
    exact Settings.answered_withAddress_text hload
  · intro source settings text address hload
    exact Settings.outcome_withAddress_iff hload
  · intro source target first second one other hone hother
    have hfirst := Settings.spells_of_outcome_withAddress hone
    have hsecond := Settings.spells_of_outcome_withAddress hother
    rw [Address.text_injective.eq_iff]
    constructor
    · intro hsame
      exact ⟨one.listenAddress, hfirst, hsame ▸ hsecond⟩
    · rintro ⟨address, hone, hother⟩
      rw [hfirst.unique hone, hsecond.unique hother]
  · intro environment file start settings text hlaunch houtcome hreport
    exact launch_of_report hlaunch houtcome hreport

/-- An address with a scope, whose four octets are spelled as groups, is logged with the octets. A
process that is given the logged text starts alike. -/
theorem restart_at_logged_address_mapped :
    let environment := Settings.reasonableVariables (encode "[0:0::FFFF:7f00:0001%007]:08080")
    let settings : Settings := ⟨"a-perfectly-reasonable-secret-value",
      .v6 ⟨[0, 0, 0, 0, 0, 0xFFFF, 0x7F00, 1], rfl⟩ 7 8080⟩
    settings.listenAddress.text = "[::ffff:127.0.0.1%7]:8080" ∧
      load.answered (withAddress environment.text? settings.listenAddress.text) =
        load.answered environment.text? ∧
      (load.answered (withAddress environment.text? "[::FFFF:127.0.0.1%7]:8080")).outcome =
        .ok settings ∧
      ∃ start, launch environment none = .ok start ∧ start.outcome = .ok settings ∧
        report ("JWT generator listening on http://" ++ "[::ffff:127.0.0.1%7]:8080") ∈
          start.events ∧
        ∃ extended, surroundings environment none = .ok extended ∧
          launch (("LISTEN_ADDR", encode "[::ffff:127.0.0.1%7]:8080") :: extended) none =
            .ok start := by
  intro environment settings
  obtain ⟨hwritten, hspelled, -, hrestart⟩ := restart_at_logged_address
  have htext : settings.listenAddress.text = "[::ffff:127.0.0.1%7]:8080" := by decide +kernel
  have hload : (load.answered environment.text?).outcome = .ok settings := by decide +kernel
  have hlaunch : launch environment none = .ok (launchWith environment.text?) := rfl
  have houtcome : (launchWith environment.text?).outcome = .ok settings := by decide +kernel
  have hreport : report ("JWT generator listening on http://" ++ "[::ffff:127.0.0.1%7]:8080") ∈
      (launchWith environment.text?).events := by decide +kernel
  have hother : settings.listenAddress.Spells "[::FFFF:127.0.0.1%7]:8080".toList :=
    Address.parse?_eq_some_iff.mp (by decide +kernel)
  exact ⟨htext, hwritten _ _ hload, (hspelled _ _ _ _ hload).mpr hother, _, hlaunch, houtcome,
    hreport, hrestart _ _ _ _ _ hlaunch houtcome hreport⟩

end Startup

end TokenService
