import TokenService.Http.Form
import TokenService.Http.Request
import TokenService.Http.Response
import TokenService.Http.Route
import TokenService.Issuer
import TokenService.Lifetime

/-!
# The service

How a request is answered, and which events it causes. The index tells how to use the service; the
place of a user hands out a token for that user. Both know GET, and HEAD, which is GET without the
body; any other method is not allowed there, and any other place is not found.
-/

set_option autoImplicit false
set_option relaxedAutoImplicit false

namespace TokenService

namespace Lifetime

/-- Takes the parameters of a lifetime from named values. The name of a repeated one is a fault. -/
def ofPairs (lifetime : Lifetime) : List (String × String) → Except String Lifetime
  | [] => .ok lifetime
  | (name, value) :: pairs =>
    if name = "seconds" then
      if lifetime.seconds.isSome then .error name
      else ofPairs { lifetime with seconds := some value } pairs
    else if name = "days" then
      if lifetime.days.isSome then .error name
      else ofPairs { lifetime with days := some value } pairs
    else ofPairs lifetime pairs

/-- The lifetime that a query asks for. -/
def ofQuery (query : Bytes) : Except String Lifetime :=
  ofPairs ⟨none, none⟩ (Http.Form.pairs query)

end Lifetime

namespace Http

/-- A response, and what is reported on the way to it. -/
structure Answer where
  response : Response
  events : List Event
deriving DecidableEq, Repr

namespace Answer

/-- A response with nothing to report. -/
def quiet (response : Response) : Answer :=
  ⟨response, []⟩

/-- The answer to a refused request. -/
def ofRefusal (refusal : Refusal) : Answer :=
  ⟨(Response.ofRefusal refusal).withLength, [refusal.event]⟩

end Answer

namespace Service

/-! ### Places -/

/-- The page that tells how to use the service. -/
def indexPage : String :=
  "<h2>JWT Token Generator</h2>" ++
    "<p>Usage: /token/username?days=7 or /token/username?seconds=3600</p>" ++
    "<p>Includes server-side subscriptions for channels: " ++
    String.intercalate ", " Claims.standardChannels ++ "</p>"

/-- The user whose name a segment spells. -/
def user? (segment : Bytes) : Option String :=
  Text.Utf8.decode? (Percent.decode segment)

/-- A token for a user, as a request asks for it. -/
def grant (issuer : Issuer) (time : Int) (user : String) (lifetime : Lifetime) :
    Except Refusal String :=
  match lifetime.resolve with
  | .error refusal => .error refusal
  | .ok seconds => issuer.issueAt user seconds time

/-- Answers a request for a token. -/
def handOut (issuer : Issuer) (time : Int) (user : String) (lifetime : Lifetime) : Answer :=
  match grant issuer time user lifetime with
  | .error refusal => .ofRefusal refusal
  | .ok token => .quiet (.plain 200 token)

/-- Answers a request for a token of the user that a segment names. -/
def answerToken (issuer : Issuer) (time : Int) (segment query : Bytes) : Answer :=
  match user? segment with
  | none => .quiet (.plain 400 "Invalid URL: Invalid UTF-8 in `user`")
  | some user =>
    match Lifetime.ofQuery query with
    | .error name =>
      .quiet (.plain 400
        ("Failed to deserialize query string: duplicate field `" ++ name ++ "`"))
    | .ok lifetime => handOut issuer time user lifetime

/-- Answers a request for a place. -/
def answerRoute (issuer : Issuer) (time : Int) (query : Bytes) : Route → Answer
  | .index => .quiet (.withBody 200 "text/html" indexPage)
  | .token segment => answerToken issuer time segment query

/-! ### Requests -/

/-- The header that tells that there is no body. -/
def noLength : String × String := Response.lengthHeader ""

/-- The response for a method that a place does not know. -/
def notAllowed : Response :=
  ⟨405, [("allow", "GET,HEAD"), noLength], ""⟩

/-- The response for a place that the service does not know. -/
def notFound (path : Bytes) : Response :=
  ⟨404, if path.head? = some Target.slash then [] else [noLength], ""⟩

/-- Answers a request. -/
def answer (issuer : Issuer) (time : Int) (request : Request) : Answer :=
  match Route.ofPath? request.target.path with
  | none => .quiet (notFound request.target.path)
  | some route =>
    let full := answerRoute issuer time request.target.query route
    match request.method with
    | .get => full
    | .head => { full with response := full.response.withoutBody }
    | .other => .quiet notAllowed

end Service

end Http

end TokenService
