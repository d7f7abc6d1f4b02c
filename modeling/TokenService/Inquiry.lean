/-!
# Inquiries

A computation that asks for variables by name, one after another, and ends with a value. What it
asks for and what it makes of the answers are one object, so both can be read off it: `answered`
gives the value under some source of answers, `asked` the names in the order in which they were
asked for.
-/

set_option autoImplicit false
set_option relaxedAutoImplicit false

namespace TokenService

/-- A value, or a name to ask for and what follows the answer. -/
inductive Inquiry (α : Type)
  | done (value : α)
  | ask (name : String) (next : Option String → Inquiry α)

namespace Inquiry

variable {α : Type}

/-- The value under a source of answers. -/
def answered (source : String → Option String) : Inquiry α → α
  | .done value => value
  | .ask name next => (next (source name)).answered source

/-- The names asked for under a source of answers. -/
def asked (source : String → Option String) : Inquiry α → List String
  | .done _ => []
  | .ask name next => name :: (next (source name)).asked source

end Inquiry

end TokenService
