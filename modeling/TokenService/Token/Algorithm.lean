import TokenService.Text.Utf8

/-!
# Algorithms

The registered ways to sign a token, and the family of keys that each of them takes.
-/

set_option autoImplicit false
set_option relaxedAutoImplicit false

namespace TokenService.Token

/-- The registered ways to sign a token. -/
inductive Algorithm
  | hs256
  | hs384
  | hs512
  | es256
  | es384
  | rs256
  | rs384
  | rs512
  | ps256
  | ps384
  | ps512
  | edDsa
deriving DecidableEq, Repr

namespace Algorithm

/-- The name of an algorithm. -/
def name : Algorithm → String
  | .hs256 => "HS256"
  | .hs384 => "HS384"
  | .hs512 => "HS512"
  | .es256 => "ES256"
  | .es384 => "ES384"
  | .rs256 => "RS256"
  | .rs384 => "RS384"
  | .rs512 => "RS512"
  | .ps256 => "PS256"
  | .ps384 => "PS384"
  | .ps512 => "PS512"
  | .edDsa => "EdDSA"

/-- All algorithms, in the order in which diagnostics list them. -/
def all : List Algorithm :=
  [.hs256, .hs384, .hs512, .es256, .es384, .rs256, .rs384, .rs512, .ps256, .ps384, .ps512, .edDsa]

/-- The algorithm of a name. -/
def ofName? (name : String) : Option Algorithm :=
  all.find? (·.name = name)

/-- The kinds of keys: a shared secret, or a pair of keys for one kind of arithmetic. -/
inductive Family
  | hmac
  | rsa
  | ec
  | ed
deriving DecidableEq, Repr

/-- The kind of keys that an algorithm takes. -/
def family : Algorithm → Family
  | .hs256 | .hs384 | .hs512 => .hmac
  | .rs256 | .rs384 | .rs512 | .ps256 | .ps384 | .ps512 => .rsa
  | .es256 | .es384 => .ec
  | .edDsa => .ed

end Algorithm

/-- A key to sign with: its kind, and its bytes. -/
structure Key where
  family : Algorithm.Family
  content : Bytes
deriving DecidableEq, Repr

/-- The key that is a shared secret. -/
def Key.ofSecret (secret : Bytes) : Key :=
  ⟨.hmac, secret⟩

end TokenService.Token
