import TokenService.Decimal.Integer

/-!
# Log events

What the service reports about its own work: a level, the part of the service that speaks, a
message, and named values. `Event.line` is the form in which an event is logged, without its time.
-/

set_option autoImplicit false
set_option relaxedAutoImplicit false

namespace TokenService

/-- How much an event matters, the most important first. -/
inductive Level
  | error
  | warn
  | info
  | debug
  | trace
deriving DecidableEq, Repr

namespace Level

/-- The name of a level. -/
def name : Level → String
  | .error => "ERROR"
  | .warn => "WARN"
  | .info => "INFO"
  | .debug => "DEBUG"
  | .trace => "TRACE"

/-- How little a level matters. -/
def rank : Level → Nat
  | .error => 1
  | .warn => 2
  | .info => 3
  | .debug => 4
  | .trace => 5

end Level

/-- A value that an event names. -/
inductive FieldValue
  | text (value : String)
  | count (value : Nat)
deriving DecidableEq, Repr

/-- A value as it is logged. -/
def FieldValue.render : FieldValue → String
  | .text value => value
  | .count value => Decimal.Integer.text value

/-- Something that the service reports. -/
structure Event where
  level : Level
  target : String
  message : String
  fields : List (String × FieldValue)
deriving DecidableEq, Repr

namespace Event

/-- The logged form of an event. -/
def line (event : Event) : String :=
  event.level.name ++ " " ++ event.target ++ ": " ++ event.message ++
    String.join (event.fields.map fun (name, value) ↦ " " ++ name ++ "=" ++ value.render)

end Event

end TokenService
