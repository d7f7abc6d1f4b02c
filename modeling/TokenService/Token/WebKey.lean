import TokenService.Json.Value

/-!
# Web keys

A key is an object whose members are kept until all of them are read. Only then are the fields that
every key may have checked for their kinds, in the order of the members, and after them those that
tell the families of keys apart: the members of a key fit at least one family. Nothing of a key is
kept. Members of other names may have any values.
-/

set_option autoImplicit false
set_option relaxedAutoImplicit false

namespace TokenService.Token

open Json

namespace WebKey

/-! ### Kinds of fields -/

/-- What a field holds: a string, a list of strings, or one of some names. A name may also be the
key of an object with one member, whose value is `null` or, for some fields, an empty object. -/
inductive Kind
  | text
  | texts
  | name (known : List String) (allowsEmpty : Bool)

/-- What is wrong with a value where a string is wanted. -/
def textProblem? : Value → Option Problem
  | .scalar (.text _) => none
  | value => some (.wrongType value.found "a string")

/-- What is wrong with a name. -/
def nameProblem? (known : List String) (name : String) : Option Problem :=
  if name ∈ known then none else some (.unknownVariant name known)

/-- What is wrong with the value that a name is the key of. -/
def contentProblem? (allowsEmpty : Bool) : Value → Option Problem
  | .scalar .null => none
  | .object [] => if allowsEmpty then none else some (.wrongType .map "unit")
  | value => some (.wrongType value.found "unit")

/-- What is wrong with a value where one of some kind is wanted. -/
def Kind.problem? : Kind → Value → Option Problem
  | .text, value => textProblem? value
  | .texts, .list values => values.findSome? textProblem?
  | .texts, value => some (.wrongType value.found "a sequence")
  | .name known _, .scalar (.text given) => nameProblem? known given
  | .name known allowsEmpty, .object [(given, content)] =>
    (nameProblem? known given).or (contentProblem? allowsEmpty content)
  | .name _ _, .object _ => some .notOneKey
  | .name _ _, value => some (.wrongType value.found "string or map")

/-- What is wrong with a value that may also be `null`. -/
def Kind.optionalProblem? (kind : Kind) : Value → Option Problem
  | .scalar .null => none
  | value => kind.problem? value

/-! ### Fields -/

/-- The algorithms that a key can be meant for. -/
def algorithms : List String :=
  ["HS256", "HS384", "HS512", "ES256", "ES384", "RS256", "RS384", "RS512", "PS256", "PS384",
    "PS512", "EdDSA", "RSA1_5", "RSA-OAEP", "RSA-OAEP-256"]

/-- The fields that every key may have. -/
def commonFields : List (String × Kind) :=
  [("use", .text), ("key_ops", .texts), ("alg", .name algorithms true), ("kid", .text),
    ("x5u", .text), ("x5c", .texts), ("x5t", .text), ("x5t#S256", .text)]

/-- What is wrong with the fields of some kinds among members, where those seen before may not come
again. -/
def fieldProblem? (fields : List (String × Kind)) (seen : List String) :
    List (String × Value) → Option Problem
  | [] => none
  | (name, value) :: members =>
    match fields.lookup name with
    | none => fieldProblem? fields seen members
    | some kind =>
      if name ∈ seen then some (.duplicateField name)
      else (kind.optionalProblem? value).or (fieldProblem? fields (name :: seen) members)

/-- The curves of a key. -/
def curves : List String :=
  ["P-256", "P-384", "P-521", "Ed25519"]

/-- The fields of each family of keys. -/
def families : List (List (String × Kind)) :=
  [[("kty", .name ["EC"] false), ("crv", .name curves false), ("x", .text), ("y", .text)],
    [("kty", .name ["RSA"] false), ("n", .text), ("e", .text)],
    [("kty", .name ["oct"] false), ("k", .text)],
    [("kty", .name ["OKP"] false), ("crv", .name curves false), ("x", .text)]]

/-- Whether members have each of some fields once, with a value of its kind. -/
def fits (members : List (String × Value)) (fields : List (String × Kind)) : Bool :=
  fields.all fun field ↦
    match valuesOf field.1 members with
    | [value] => (field.2.problem? value).isNone
    | _ => false

/-- What is wrong with the members of a key. -/
def problem? (members : List (String × Value)) : Option Problem :=
  (fieldProblem? commonFields [] members).or
    (if families.any (fits members) then none else some (.noVariant "AlgorithmParameters"))

end WebKey

/-- The number of lists and objects that may be open inside a member of a key. -/
def webKeyNesting : Nat := nestingLimit - 1

/-- Reads a key. -/
def readWebKey (bytes : Bytes) : Reading Unit :=
  match skipBlanks bytes with
  | [] => .error (.before .endInValue [])
  | byte :: rest =>
    if byte = ascii '\x7b' then
      match readEntries (valueReader webKeyNesting) true rest with
      | .error fault => .error fault
      | .ok (members, others) =>
        match WebKey.problem? members with
        | some problem => .error (.before problem others)
        | none => .ok ((), others)
    else .error (misfit "struct Jwk" (byte :: rest))

theorem readWebKey_consumes : Consumes readWebKey := by
  intro bytes value rest done
  have blanks := skipBlanks_length_le bytes
  have entries := @readEntries_consumes
  simp only [Consumes] at entries
  unfold readWebKey at done
  grind

end TokenService.Token
