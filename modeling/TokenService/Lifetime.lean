import TokenService.Refusal
import TokenService.Text.Space

/-!
# Lifetimes

How long a token is to live, as a request asks for it: a number of seconds, else a number of days,
else seven days. Numbers may be negative and may have blank space around them.
-/

set_option autoImplicit false
set_option relaxedAutoImplicit false

namespace TokenService

/-- The lifetime that a request asks for. -/
structure Lifetime where
  seconds : Option String
  days : Option String
deriving DecidableEq, Repr

namespace Lifetime

/-- The number of seconds in a day. -/
def secondsPerDay : Int := 86400

/-- The number of days when a request asks for none. -/
def defaultDays : Int := 7

/-- The integer that a parameter holds. -/
def parameter (name value : String) : Except Refusal Int :=
  match Decimal.Integer.parseWithin? (Text.Space.trim value.toList) with
  | some number => .ok number
  | none => .error (.validation name value)

/-- The seconds in a number of days. -/
def ofDays (days : Int) : Except Refusal Int :=
  match Decimal.Integer.multiply? days secondsPerDay with
  | some seconds => .ok seconds
  | none => .error (.outOfRange "days")

/-- The lifetime in seconds. -/
def resolve (lifetime : Lifetime) : Except Refusal Int :=
  match lifetime.seconds, lifetime.days with
  | some seconds, _ => parameter "seconds" seconds
  | none, some days =>
    match parameter "days" days with
    | .error refusal => .error refusal
    | .ok number => ofDays number
  | none, none => ofDays defaultDays

end Lifetime

end TokenService
