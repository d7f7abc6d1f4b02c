import TokenService.Address.Parser
import TokenService.Address.Printer
import TokenService.Event
import TokenService.Inquiry
import TokenService.Text.Quoted
import TokenService.Text.Space
import TokenService.Text.Utf8

/-!
# Settings

What the service has to be told before it can start: the secret of its tokens, and the address that
it listens on, for which there is a default. The secret must be given and must be neither blank nor
the one that everybody knows; one that is short is reported but accepted. The secret is never shown.
-/

set_option autoImplicit false
set_option relaxedAutoImplicit false

namespace TokenService

/-- A secret and a place to listen. -/
structure Settings where
  secret : String
  listenAddress : Address
deriving DecidableEq, Repr

namespace Settings

/-- How settings are shown: with the secret hidden. -/
def describe (settings : Settings) : String :=
  "Config \x7b jwt_secret: \"[hidden]\", listen_addr: " ++ settings.listenAddress.text ++ " \x7d"

/-! ### Faults -/

/-- Why the service cannot start. -/
inductive Fault
  | missingSecret
  | emptySecret
  | insecureSecret (secret : String)
  | invalidListenAddress (value : String)
deriving DecidableEq, Repr

/-- The text of a fault. -/
def Fault.message : Fault → String
  | .missingSecret => "JWT_SECRET must be set"
  | .emptySecret => "JWT_SECRET must not be empty"
  | .insecureSecret secret =>
    "JWT_SECRET is set to the well-known default `" ++ secret ++ "`; choose a real secret"
  | .invalidListenAddress value =>
    "invalid LISTEN_ADDR `" ++ value ++ "`: invalid socket address syntax"

/-- How a fault is shown to whoever started the service. -/
def Fault.describe : Fault → String
  | .missingSecret => "MissingSecret"
  | .emptySecret => "EmptySecret"
  | .insecureSecret secret => "InsecureSecret(" ++ Text.Quoted.quote secret ++ ")"
  | .invalidListenAddress value =>
    "InvalidListenAddr \x7b value: " ++ Text.Quoted.quote value ++
      ", source: AddrParseError(Socket) \x7d"

/-! ### Secrets -/

/-- The variable that holds the secret. -/
def secretName : String := "JWT_SECRET"

/-- The secret that everybody knows. -/
def wellKnownSecret : String := "my-secret-key"

/-- The number of bytes below which a secret is reported as short. -/
def recommendedLength : Nat := 32

/-- A secret that may be used. -/
def checkSecret : Option String → Except Fault String
  | none => .error .missingSecret
  | some secret =>
    if (Text.Space.trim secret.toList).isEmpty then .error .emptySecret
    else if secret = wellKnownSecret then .error (.insecureSecret wellKnownSecret)
    else .ok secret

/-- The events of a secret that may be used. -/
def secretEvents (secret : String) : List Event :=
  let length := (Text.Utf8.encode secret).length
  if length < recommendedLength then
    [⟨.warn, "jwt_generator::config", "JWT_SECRET is shorter than 32 bytes",
      [("len", .count length)]⟩]
  else []

/-! ### Addresses -/

/-- The variable that holds the address. -/
def addressName : String := "LISTEN_ADDR"

/-- Where the service listens if nothing else is said. -/
def defaultAddress : String := "0.0.0.0:3001"

/-- The address to listen on. -/
def checkAddress (given : Option String) : Except Fault Address :=
  let value := given.getD defaultAddress
  match Address.parse? value with
  | some address => .ok address
  | none => .error (.invalidListenAddress value)

/-! ### Loading -/

/-- What came of loading the settings. -/
structure Loading where
  outcome : Except Fault Settings
  events : List Event

/-- The settings of a secret and an address. -/
def assemble (secret : String) (given : Option String) : Except Fault Settings :=
  match checkAddress given with
  | .error fault => .error fault
  | .ok address => .ok ⟨secret, address⟩

/-- Loads the settings. The address is asked for once the secret has passed its checks. -/
def load : Inquiry Loading :=
  .ask secretName fun given ↦
    match checkSecret given with
    | .error fault => .done ⟨.error fault, []⟩
    | .ok secret =>
      .ask addressName fun address ↦ .done ⟨assemble secret address, secretEvents secret⟩

end Settings

end TokenService
