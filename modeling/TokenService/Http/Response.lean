import TokenService.Decimal.Integer
import TokenService.Refusal
import TokenService.Text.Utf8

/-!
# Responses

A status, headers in the order of their names, and a body, which is a text. Whoever makes a response
says what its body is; how long it is is told when the response is sent (`withLength`).
-/

set_option autoImplicit false
set_option relaxedAutoImplicit false

namespace TokenService.Http

/-- What a request is answered. -/
structure Response where
  status : Nat
  headers : List (String × String)
  body : String
deriving DecidableEq, Repr

namespace Response

/-- The header that tells how long a body is. -/
def lengthHeader (body : String) : String × String :=
  ("content-length", Decimal.Integer.text (Text.Utf8.encode body).length)

/-- The header that tells what a body is. -/
def typeHeader (kind : String) : String × String :=
  ("content-type", kind ++ "; charset=utf-8")

/-- The response with the header that tells how long its body is. -/
def withLength (response : Response) : Response :=
  { response with headers := lengthHeader response.body :: response.headers }

/-- A response with a body of a kind. -/
def withBody (status : Nat) (kind body : String) : Response :=
  withLength ⟨status, [typeHeader kind], body⟩

/-- A response with a plain text. -/
def plain (status : Nat) (body : String) : Response :=
  withBody status "text/plain" body

/-- The response without its body. -/
def withoutBody (response : Response) : Response :=
  { response with body := "" }

/-- The response to a refused request, before its length is known. -/
def ofRefusal (refusal : Refusal) : Response :=
  ⟨refusal.status, [typeHeader "text/plain"], refusal.message⟩

end Response

end TokenService.Http
