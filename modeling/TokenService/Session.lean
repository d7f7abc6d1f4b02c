import TokenService.Http.Service
import TokenService.Startup

/-!
# Sessions

A session is one service over a stretch of time: it is configured and configured anew, its clock
moves, it answers requests, and it issues and reads tokens, also those that earlier steps brought
forth. Each step has an outcome, and a step that fails leaves the others in effect.
-/

set_option autoImplicit false
set_option relaxedAutoImplicit false

namespace TokenService

/-- A service and its clock. -/
structure Session where
  issuer : Option Issuer
  time : Int
deriving DecidableEq, Repr

namespace Session

/-- Where a token comes from: it is given, or an earlier step brought it forth. -/
inductive Source
  | given (token : String)
  | step (index : Nat)
deriving DecidableEq, Repr

/-- What is done in a session. -/
inductive Step
  | configure (environment : Environment)
  | setClock (time : Int)
  | advance (seconds : Int)
  | request (method target : String)
  | issue (user : String) (duration : Int)
  | issueAt (user : String) (duration time : Int)
  | verify (source : Source) (secret : Option Bytes)
  | decode (source : Source) (secret : Option Bytes)
deriving DecidableEq, Repr

/-- What comes of a step. -/
inductive Outcome
  | configured (events : List Event)
  | misconfigured (fault : Settings.Fault)
  | clock (time : Int)
  | answered (answer : Http.Answer)
  | badRequest (fault : Http.Request.Fault)
  | issued (token : String)
  | refused (refusal : Refusal)
  | accepted (claims : Claims)
  | rejected (rejection : Token.Rejection)
  | noToken
  | noService
deriving DecidableEq, Repr

/-! ### Outcomes -/

/-- The outcome of answering a request that two texts make. -/
def ofRequest (issuer : Issuer) (time : Int) (method target : String) : Outcome :=
  match Http.Request.parse method target with
  | .error fault => .badRequest fault
  | .ok request => .answered (Http.Service.answer issuer time request)

/-- The outcome of issuing a token. -/
def ofIssue (issued : Except Refusal String) : Outcome :=
  match issued with
  | .error refusal => .refused refusal
  | .ok token => .issued token

/-- The outcome of reading a token. -/
def ofReading (read : Except Token.Rejection Claims) : Outcome :=
  match read with
  | .error rejection => .rejected rejection
  | .ok claims => .accepted claims

/-- The text that a later step may take for a token: a token, or the body of any response. -/
def Outcome.token? : Outcome → Option String
  | .issued token => some token
  | .answered answer => some answer.response.body
  | _ => none

/-- The token of a source. -/
def Source.token? (earlier : List Outcome) : Source → Option String
  | .given token => some token
  | .step index => earlier[index]?.bind Outcome.token?

/-! ### Steps -/

variable (session : Session)

/-- What the service makes of a step, if it is configured. -/
def withService (act : Issuer → Outcome) : Session × Outcome :=
  (session, (session.issuer.map act).getD .noService)

/-- Reads a token under a secret, or else under that of the service. -/
def readToken (earlier : List Outcome) (source : Source) (secret : Option Bytes)
    (read : Issuer → String → Except Token.Rejection Claims) : Session × Outcome :=
  match source.token? earlier with
  | none => (session, .noToken)
  | some token =>
    match secret with
    | some secret => (session, ofReading (read ⟨secret⟩ token))
    | none => session.withService fun issuer ↦ ofReading (read issuer token)

/-- Configures the service. A service that cannot be configured is gone. -/
def configure (environment : Environment) : Session × Outcome :=
  let loading := Settings.load.answered environment.text?
  match loading.outcome with
  | .error fault => ({ session with issuer := none }, .misconfigured fault)
  | .ok settings => ({ session with issuer := some settings.issuer }, .configured loading.events)

/-- Takes a step. -/
def take (earlier : List Outcome) : Step → Session × Outcome
  | .configure environment => session.configure environment
  | .setClock time => ({ session with time }, .clock time)
  | .advance seconds =>
    ({ session with time := session.time + seconds }, .clock (session.time + seconds))
  | .request method target =>
    session.withService fun issuer ↦ ofRequest issuer session.time method target
  | .issue user duration =>
    session.withService fun issuer ↦ ofIssue (issuer.issueAt user duration session.time)
  | .issueAt user duration time =>
    session.withService fun issuer ↦ ofIssue (issuer.issueAt user duration time)
  | .verify source secret =>
    session.readToken earlier source secret fun issuer ↦ issuer.verify session.time
  | .decode source secret =>
    session.readToken earlier source secret fun issuer ↦ issuer.decode

/-- The outcomes of some steps after those of earlier ones. -/
def takeAll (session : Session) (earlier : List Outcome) : List Step → List Outcome
  | [] => earlier
  | step :: steps =>
    let (next, outcome) := session.take earlier step
    takeAll next (earlier ++ [outcome]) steps

/-- The outcomes of a session that begins at a time without a service. -/
def outcomes (time : Int) (steps : List Step) : List Outcome :=
  takeAll ⟨none, time⟩ [] steps

end Session

end TokenService
