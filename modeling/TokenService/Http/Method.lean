/-!
# Request methods

A method is a token in the case in which it is written. The service tells two of them apart from all
others.
-/

set_option autoImplicit false
set_option relaxedAutoImplicit false

namespace TokenService.Http

/-- What a request wants done. -/
inductive Method
  | get
  | head
  | other
deriving DecidableEq, Repr

namespace Method

/-- The characters of a token beside letters and digits. -/
def tokenSigns : List Char :=
  ['!', '#', '$', '%', '&', '\'', '*', '+', '-', '.', '^', '_', '\x60', '|', '~']

/-- A character of a token. -/
def isTokenPart (character : Char) : Bool :=
  character.isAlphanum || character ∈ tokenSigns

/-- The method of a name. -/
def parse? (name : String) : Option Method :=
  if name.isEmpty || !name.toList.all isTokenPart then none
  else if name = "GET" then some .get
  else if name = "HEAD" then some .head
  else some .other

end Method

end TokenService.Http
