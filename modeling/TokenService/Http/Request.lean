import TokenService.Http.Method
import TokenService.Http.Target

/-!
# Requests

A method and a target. Requests are made of two texts, of which the method is checked first.
-/

set_option autoImplicit false
set_option relaxedAutoImplicit false

namespace TokenService.Http

/-- What is asked of the service. -/
structure Request where
  method : Method
  target : Target
deriving DecidableEq, Repr

namespace Request

/-- What is wrong with a request. -/
inductive Fault
  | method
  | target (fault : Target.Fault)
deriving DecidableEq, Repr

/-- The text of a fault. -/
def Fault.message : Fault → String
  | .method => "invalid HTTP method"
  | .target fault => fault.message

/-- The request that two texts make. -/
def parse (method target : String) : Except Fault Request :=
  match Method.parse? method with
  | none => .error .method
  | some method =>
    match Target.parse (Text.Utf8.encode target) with
    | .error fault => .error (.target fault)
    | .ok target => .ok ⟨method, target⟩

end Request

end TokenService.Http
