import TokenService.Event
import TokenService.Token.Fault

/-!
# Refusals

Why the service does not hand out a token: a parameter is no integer, a time leaves the range of 64
bits, or the token cannot be signed. Each refusal has a status, a text and an event.
-/

set_option autoImplicit false
set_option relaxedAutoImplicit false

namespace TokenService

/-- Why a request for a token is refused. -/
inductive Refusal
  | validation (parameter value : String)
  | outOfRange (parameter : String)
  | signing (fault : Token.Fault)
deriving DecidableEq, Repr

namespace Refusal

/-- The status of the answer: the request is at fault, or else the service. -/
def status : Refusal → Nat
  | .validation .. => 400
  | .outOfRange .. => 400
  | .signing .. => 500

/-- The text of a refusal. -/
def message : Refusal → String
  | .validation parameter value =>
    "invalid `" ++ parameter ++ "` parameter: expected an integer, got `" ++ value ++ "`"
  | .outOfRange parameter => "`" ++ parameter ++ "` is out of range"
  | .signing fault => "failed to sign token: " ++ fault.message

/-- The part of the service that reports refusals. -/
def target : String := "jwt_generator::error"

/-- The event of a refusal. -/
def event : Refusal → Event
  | .validation parameter value =>
    ⟨.debug, target, "rejected duration parameter",
      [("param", .text parameter), ("value", .text value)]⟩
  | .outOfRange parameter =>
    ⟨.debug, target, "duration out of range", [("param", .text parameter)]⟩
  | .signing fault =>
    ⟨.error, target, "token signing failed", [("error", .text fault.message)]⟩

end Refusal

end TokenService
