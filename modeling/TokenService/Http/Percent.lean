import TokenService.Text.Hex
import TokenService.Text.Utf8

/-!
# Percent encoding

A byte may be written as a percent sign and two hexadecimal digits. A percent sign that two digits
do not follow stands for itself.
-/

set_option autoImplicit false
set_option relaxedAutoImplicit false

namespace TokenService.Http.Percent

/-- The sign in front of an encoded byte. -/
def sign : UInt8 := ascii '%'

/-- The byte of two digits. -/
def byte? (high low : UInt8) : Option UInt8 := do
  let high ← Text.Hex.value? high.toNat
  let low ← Text.Hex.value? low.toNat
  some (UInt8.ofNat (high * 16 + low))

/-- The bytes that a text stands for. -/
def decode : Bytes → Bytes
  | first :: high :: low :: rest =>
    match (if first = sign then byte? high low else none) with
    | some byte => byte :: decode rest
    | none => first :: decode (high :: low :: rest)
  | bytes => bytes

end TokenService.Http.Percent
