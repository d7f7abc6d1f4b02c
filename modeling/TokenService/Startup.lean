import TokenService.EnvFile.Assignments
import TokenService.Event.Filter
import TokenService.Issuer
import TokenService.Settings

/-!
# Starting and stopping

The service starts with the variables of its process and those that a variable file adds. It loads
its settings, and then either serves until it is told to stop or gives up. What it reports on the
way is logged as far as the filter in the variable `RUST_LOG` lets it pass. A file with a value that
the system does not take ends the service before all that, with nothing logged.
-/

set_option autoImplicit false
set_option relaxedAutoImplicit false

namespace TokenService

/-- The issuer of some settings. -/
def Settings.issuer (settings : Settings) : Issuer :=
  ⟨Text.Utf8.encode settings.secret⟩

/-- How a service that holds an issuer is shown. -/
def Issuer.describeService (issuer : Issuer) : String :=
  "AppState \x7b issuer: " ++ issuer.describe ++ " \x7d"

namespace Startup

/-- The variables of a process with those that its variable file adds. -/
def surroundings (environment : Environment) (file : Option Bytes) :
    Except Environment.Fault Environment :=
  EnvFile.extend environment (file.getD [])

/-! ### Reports -/

/-- The part of the service that starts and stops it. -/
def target : String := "jwt_generator"

/-- A report without values. -/
def report (message : String) : Event :=
  ⟨.info, target, message, []⟩

/-- What is reported once the service listens. -/
def listening (address : Address) : List Event :=
  [report ("JWT generator listening on http://" ++ address.text),
    report ("Usage: http://" ++ address.text ++ "/token/test-user?days=7")]

/-- What is reported when the service is told to stop. -/
def stopping : List Event :=
  [report "Signal received, starting graceful shutdown"]

/-! ### Runs -/

/-- How a run of the service begins: what is logged, and the settings or why there are none. -/
structure Launch where
  filter : Event.Filter
  events : List Event
  outcome : Except Settings.Fault Settings

/-- Begins a run with the values that a source gives for its variables. -/
def launchWith (source : String → Option String) : Launch :=
  let loading := Settings.load.answered source
  let filter := Event.Filter.ofVariable (source "RUST_LOG")
  match loading.outcome with
  | .error fault => ⟨filter, loading.events, .error fault⟩
  | .ok settings => ⟨filter, loading.events ++ listening settings.listenAddress, .ok settings⟩

/-- Begins a run, if the variables of its file can be set. -/
def launch (environment : Environment) (file : Option Bytes) : Except Environment.Fault Launch :=
  (surroundings environment file).map fun extended ↦ launchWith extended.text?

/-- The lines of the events that pass a filter. -/
def logged (filter : Event.Filter) (events : List Event) : List String :=
  (events.filter filter.passes).map Event.line

/-- What a run leaves behind. -/
structure Run where
  exitCode : Nat
  log : List String
  errors : String
deriving DecidableEq, Repr

/-- The exit code of a service that comes upon what it cannot deal with. -/
def crashCode : Nat := 101

/-- What the service says when it gives up. -/
def complaint (fault : Settings.Fault) : String :=
  "Error: " ++ fault.describe ++ "\n"

/-- A whole run, up to the end of a service that is told to stop. -/
def run (environment : Environment) (file : Option Bytes) : Run :=
  match launch environment file with
  | .error fault => ⟨crashCode, [], fault.message ++ "\n"⟩
  | .ok start =>
    match start.outcome with
    | .error fault => ⟨1, logged start.filter start.events, complaint fault⟩
    | .ok _ => ⟨0, logged start.filter (start.events ++ stopping), ""⟩

end Startup

end TokenService
