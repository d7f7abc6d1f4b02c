import TokenService.Proofs.EnvFile
import TokenService.Proofs.Settings
import TokenService.Startup

/-!
# How a run begins

A run loads its settings from the variables of its process and, where these have no value, from the
first assignments of its variable file (`values`). Nothing else of the file counts: neither later
assignments to a name, nor lines behind a malformed one, nor that such a line is there. This needs
that the variables can be set, which a value with a zero among those assignments prevents
(`launch_of_settable`, `exists_launch_fault`).

What is logged on the way tells how it went (`run_of_values`). A run with settings says where it
listens, in the written form of its address, and ends well. A run without settings says why it has
none, and never that it listens. A run whose variables cannot be set dies without any settings and
logs nothing, although the settings may all be there (`run_of_zero`).
-/

set_option autoImplicit false
set_option relaxedAutoImplicit false

namespace TokenService

/-! ### Logged lines -/

namespace Event

theorem eq_of_head?_name {first second : Level}
    (h : first.name.toList.head? = second.name.toList.head?) : first = second := by
  -- No two levels have names with the same first letter.
  cases first <;> cases second <;> first | rfl | exact absurd h (by decide +kernel)

theorem head?_line (event : Event) : event.line.toList.head? = event.level.name.toList.head? := by
  have hname : event.level.name.toList ≠ [] := by
    cases event.level <;> exact by decide +kernel
  simp only [line, String.toList_append, List.append_assoc]
  exact List.head?_append_of_ne_nil _ hname

/-- A line shows the level of its event. -/
theorem level_eq_of_line_eq {first second : Event} (h : first.line = second.line) :
    first.level = second.level :=
  eq_of_head?_name (by rw [← head?_line, ← head?_line, h])

theorem ofVariable_none : Filter.ofVariable none = Filter.standard :=
  rfl

theorem passes_standard (event : Event) :
    Filter.standard.passes event = decide (event.level.rank ≤ Level.info.rank) :=
  rfl

end Event

namespace Settings

/-- Nothing but a warning is reported while settings are loaded. -/
theorem level_of_mem_load {source : String → Option String} {event : Event}
    (h : event ∈ (load.answered source).events) : event.level = .warn := by
  cases hsecret : checkSecret (source secretName) with
  | error fault =>
    rw [answered_load_of_fault hsecret] at h
    exact absurd h List.not_mem_nil
  | ok secret =>
    rw [answered_load hsecret] at h
    dsimp only [lengthEvents] at h
    split at h
    · rw [List.mem_singleton.mp h]
    · exact absurd h List.not_mem_nil

end Settings

namespace Startup

variable {environment : Environment} {file : Option Bytes} {events : List Event}

/-- What the file assigns, in order and up to its first malformed line: nothing without a file. -/
def assigned (environment : Environment) : Option Bytes → EnvFile.Assignments
  | none => []
  | some file => EnvFile.assignments environment file

/-- The values of variables: those of the process that are texts, else the first assigned ones. -/
def values (environment : Environment) (file : Option Bytes) (name : String) : Option String :=
  (environment.text? name).or ((assigned environment file).lookup name)

/-- What comes of loading settings from these values. -/
def loading (environment : Environment) (file : Option Bytes) : Settings.Loading :=
  Settings.load.answered (values environment file)

/-- The line that tells where the service listens. -/
def listeningLine (address : Address) : String :=
  "INFO jwt_generator: JWT generator listening on http://" ++ address.text

/-- The line that tells how to use it. -/
def usageLine (address : Address) : String :=
  "INFO jwt_generator: Usage: http://" ++ address.text ++ "/token/test-user?days=7"

/-- The line that tells that it stops. -/
def stoppingLine : String :=
  "INFO jwt_generator: Signal received, starting graceful shutdown"

/-! ### Variables -/

/-- The variables that a run needs from its file can be set. -/
abbrev IsSettable (environment : Environment) (file : Option Bytes) : Prop :=
  EnvFile.Settable environment (assigned environment file)

theorem surroundings_eq (environment : Environment) (file : Option Bytes) :
    surroundings environment file = EnvFile.carryOut environment (assigned environment file) := by
  cases file with
  | none => rfl
  | some file => rfl

theorem text?_surroundings {extended : Environment}
    (h : surroundings environment file = .ok extended) :
    extended.text? = values environment file := by
  rw [surroundings_eq] at h
  funext name
  rw [EnvFile.text?_of_carryOut h, values]

theorem launch_eq_ok_iff {start : Launch} : launch environment file = .ok start ↔
    ∃ extended, surroundings environment file = .ok extended ∧
      launchWith extended.text? = start := by
  rw [launch]
  cases surroundings environment file with
  | error fault =>
    refine iff_of_false nofun ?_
    rintro ⟨extended, hextended, -⟩
    cases hextended
  | ok extended => simp only [Except.map, Except.ok.injEq, exists_eq_left']

/-- A run whose variables can be set begins with the values that they have then. -/
theorem launch_of_settable (hsettable : IsSettable environment file) :
    launch environment file = .ok (launchWith (values environment file)) := by
  obtain ⟨extended, hextended⟩ := EnvFile.exists_carryOut_iff.mpr hsettable
  rw [← surroundings_eq] at hextended
  exact launch_eq_ok_iff.mpr ⟨extended, hextended, by rw [text?_surroundings hextended]⟩

/-- A run whose variables cannot be set fails at the first value, for a variable without one, that
holds a zero. -/
theorem exists_launch_fault (hsettable : ¬IsSettable environment file) :
    ∃ name value, environment.text? name = none ∧
      (assigned environment file).lookup name = some value ∧ '\x00' ∈ value.toList ∧
      launch environment file = .error ⟨name, value⟩ := by
  cases hextended : EnvFile.carryOut environment (assigned environment file) with
  | ok extended => exact absurd (EnvFile.settable_of_carryOut hextended) hsettable
  | error fault =>
    obtain ⟨htext, hlookup, hzero⟩ := EnvFile.eq_error_of_carryOut hextended
    refine ⟨fault.name, fault.value, htext, hlookup, hzero, ?_⟩
    rw [launch, surroundings_eq, hextended]
    rfl

theorem values_eq_none {name : String} (henvironment : environment.lookup name = none)
    (hfile : (assigned environment file).lookup name = none) :
    values environment file name = none := by
  rw [values, Environment.text?, henvironment, hfile]
  rfl

/-! ### Lines -/

theorem logged_standard (hevents : ∀ event ∈ events, event.level = .warn ∨ event.level = .info) :
    logged Event.Filter.standard events = events.map Event.line := by
  rw [logged, List.filter_eq_self.mpr]
  intro event hevent
  rw [Event.passes_standard]
  rcases hevents event hevent with hlevel | hlevel
  · rw [hlevel]
    decide
  · rw [hlevel]
    decide

theorem line_report (message : String) :
    (report message).line = Level.info.name ++ " " ++ target ++ ": " ++ message := by
  rw [report, Event.line, List.map_nil]
  exact String.append_empty

/-- The message of a report stands at the end of its line. -/
theorem line_report_append (front back : String) :
    (report (front ++ back)).line = (report front).line ++ back := by
  rw [line_report front, line_report (front ++ back)]
  exact String.append_assoc.symm

theorem line_listening (address : Address) :
    (report ("JWT generator listening on http://" ++ address.text)).line =
      listeningLine address := by
  have hfront : (report "JWT generator listening on http://").line =
      "INFO jwt_generator: JWT generator listening on http://" := by decide +kernel
  rw [line_report_append, hfront]
  rfl

theorem line_usage (address : Address) :
    (report ("Usage: http://" ++ address.text ++ "/token/test-user?days=7")).line =
      usageLine address := by
  have hfront : (report "Usage: http://").line = "INFO jwt_generator: Usage: http://" := by
    decide +kernel
  rw [line_report_append, line_report_append, hfront]
  rfl

theorem map_line_listening (address : Address) :
    (listening address).map Event.line = [listeningLine address, usageLine address] := by
  rw [listening, List.map_cons, List.map_singleton, line_listening, line_usage]

theorem map_line_stopping : stopping.map Event.line = [stoppingLine] := by
  decide +kernel

theorem level_of_mem_listening {address : Address} {event : Event}
    (h : event ∈ listening address) : event.level = .info := by
  rcases List.mem_cons.mp h with rfl | h
  · rfl
  · rw [List.mem_singleton.mp h]
    rfl

theorem level_of_mem_stopping {event : Event} (h : event ∈ stopping) : event.level = .info := by
  rw [List.mem_singleton.mp h]
  rfl

/-- A warning does not tell that the service listens. -/
theorem line_ne_of_level {event : Event} (hlevel : event.level = .warn) (address : Address) :
    event.line ≠ listeningLine address ∧ event.line ≠ usageLine address := by
  have hother : ∀ message, event.line ≠ (report message).line := fun message hline ↦
    absurd (hlevel.symm.trans (Event.level_eq_of_line_eq hline)) nofun
  exact ⟨line_listening address ▸ hother _, line_usage address ▸ hother _⟩

/-! ### Runs -/

theorem outcome_launchWith (source : String → Option String) :
    (launchWith source).outcome = (Settings.load.answered source).outcome := by
  rw [launchWith]
  split
  · next hfault => exact hfault.symm
  · next hsettings => exact hsettings.symm

theorem level_of_mem_loading {event : Event} (h : event ∈ (loading environment file).events) :
    event.level = .warn :=
  Settings.level_of_mem_load h

theorem launchWith_of_fault {source : String → Option String} {fault : Settings.Fault}
    (hfault : (Settings.load.answered source).outcome = .error fault) :
    launchWith source = ⟨Event.Filter.ofVariable (source "RUST_LOG"),
      (Settings.load.answered source).events, .error fault⟩ := by
  rw [launchWith, hfault]

theorem launchWith_of_settings {source : String → Option String} {settings : Settings}
    (hsettings : (Settings.load.answered source).outcome = .ok settings) :
    launchWith source = ⟨Event.Filter.ofVariable (source "RUST_LOG"),
      (Settings.load.answered source).events ++ listening settings.listenAddress,
      .ok settings⟩ := by
  rw [launchWith, hsettings]

section Runs

variable (hsettable : IsSettable environment file)
  (hfilter : values environment file "RUST_LOG" = none)
include hsettable hfilter

theorem run_of_fault {fault : Settings.Fault}
    (hfault : (loading environment file).outcome = .error fault) :
    run environment file =
      ⟨1, (loading environment file).events.map Event.line,
        "Error: " ++ fault.describe ++ "\n"⟩ := by
  have hlogged : logged Event.Filter.standard (loading environment file).events = _ :=
    logged_standard fun event hevent ↦ Or.inl (level_of_mem_loading hevent)
  rw [run, launch_of_settable hsettable, launchWith_of_fault hfault, hfilter,
    Event.ofVariable_none]
  dsimp only
  rw [← loading, hlogged, complaint]

theorem run_of_settings {settings : Settings}
    (hsettings : (loading environment file).outcome = .ok settings) :
    run environment file =
      ⟨0, (loading environment file).events.map Event.line ++
        [listeningLine settings.listenAddress, usageLine settings.listenAddress, stoppingLine],
        ""⟩ := by
  have hlevels : ∀ event ∈ (loading environment file).events ++
      listening settings.listenAddress ++ stopping, event.level = .warn ∨ event.level = .info := by
    intro event hevent
    rw [List.mem_append, List.mem_append] at hevent
    rcases hevent with (hevent | hevent) | hevent
    · exact Or.inl (level_of_mem_loading hevent)
    · exact Or.inr (level_of_mem_listening hevent)
    · exact Or.inr (level_of_mem_stopping hevent)
  rw [run, launch_of_settable hsettable, launchWith_of_settings hsettings, hfilter,
    Event.ofVariable_none]
  dsimp only
  rw [← loading, logged_standard hlevels, List.map_append, List.map_append, map_line_listening,
    map_line_stopping, List.append_assoc]
  rfl

end Runs

/-- A process whose secret is no text. -/
def obscureVariables : Environment :=
  [(Settings.secretName, [0xFF])]

/-- A file that assigns a secret twice and an address, and goes on behind a malformed line. -/
def brokenFile : Bytes :=
  asciiBytes ("JWT_SECRET=first\nexport JWT_SECRET=second\n" ++
    "LISTEN_ADDR='127.0.0.1:'\"8080\" # here\nno assignment\nLISTEN_ADDR=nowhere\nRUST_LOG=off\n")

/-- A process with a secret and an address. -/
def readyVariables : Environment :=
  Settings.reasonableVariables (asciiBytes "127.0.0.1:0")

/-- A file with a single line, which is well formed and assigns a zero. -/
def zeroFile : Bytes :=
  asciiBytes "X=\x00"

end Startup

end TokenService
