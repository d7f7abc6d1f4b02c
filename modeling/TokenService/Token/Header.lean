import TokenService.Json.Record
import TokenService.Token.Algorithm
import TokenService.Token.WebKey

/-!
# Token headers

The header of a token names the algorithm that signed it, and may hold hints about the key. Only the
algorithm is kept; a hint is `null` or a value of its kind, which is a string, a list of strings or
a key. An algorithm is a string, or an object whose one key is its name and whose value is `null`.
-/

set_option autoImplicit false
set_option relaxedAutoImplicit false

namespace TokenService.Token

open Json

/-- The algorithm of a name that was just read. -/
def algorithmOf (name : String) (rest : Bytes) : Reading Algorithm :=
  match Algorithm.ofName? name with
  | some algorithm => .ok (algorithm, rest)
  | none => .error (.before (.unknownVariant name (Algorithm.all.map Algorithm.name)) rest)

/-- Reads the key of an algorithm that is written as an object. -/
def readAlgorithmKey (bytes : Bytes) : Reading Algorithm :=
  match skipBlanks bytes with
  | [] => .error (.before .endInObject [])
  | byte :: rest =>
    if byte = quoteMark then
      match readString rest with
      | .error fault => .error fault
      | .ok (name, others) => algorithmOf name others
    else if byte = ascii '\x7d' then .error (.facing .expectedValue (byte :: rest))
    else .error (.facing .keyNotString (byte :: rest))

/-- Reads `null`. -/
def readNothing (bytes : Bytes) : Reading Unit :=
  match skipBlanks bytes with
  | [] => .error (.before .endInValue [])
  | byte :: rest =>
    if byte = ascii 'n' then readLetters (asciiBytes "ull") rest
    else .error (misfit "unit" (byte :: rest))

/-- Reads an algorithm that is written as an object, from behind the bracket. -/
def readTaggedAlgorithm (bytes : Bytes) : Reading Algorithm :=
  match readAlgorithmKey bytes with
  | .error fault => .error fault
  | .ok (algorithm, afterKey) =>
    match readMember readNothing afterKey with
    | .error fault => .error fault
    | .ok (_, afterValue) =>
      match skipBlanks afterValue with
      | [] => .error (.before .endInObject [])
      | byte :: rest =>
        if byte = ascii '\x7d' then .ok (algorithm, rest)
        else .error (.before .expectedValue (byte :: rest))

/-- Reads an algorithm in either form. -/
def readAlgorithm (bytes : Bytes) : Reading Algorithm :=
  match skipBlanks bytes with
  | [] => .error (.before .endInValue [])
  | byte :: rest =>
    if byte = quoteMark then
      match readString rest with
      | .error fault => .error fault
      | .ok (name, others) => algorithmOf name others
    else if byte = ascii '\x7b' then readTaggedAlgorithm rest
    else .error (.facing .expectedValue (byte :: rest))

theorem algorithmOf_shrinks (name : String) : Shrinks (algorithmOf name) := by
  intro bytes value rest done
  unfold algorithmOf at done
  grind

theorem readAlgorithmKey_shrinks : Shrinks readAlgorithmKey := by
  intro bytes value rest done
  have blanks := skipBlanks_length_le bytes
  have string := @readString_consumes
  have named := @algorithmOf_shrinks
  simp only [Consumes] at string
  simp only [Shrinks] at named
  unfold readAlgorithmKey at done
  grind

theorem readNothing_shrinks : Shrinks readNothing := by
  intro bytes value rest done
  have blanks := skipBlanks_length_le bytes
  have letters := @readLetters_shrinks
  simp only [Shrinks] at letters
  unfold readNothing at done
  grind

theorem readTaggedAlgorithm_shrinks : Shrinks readTaggedAlgorithm := by
  intro bytes value rest done
  have blanks := skipBlanks_length_le
  have key := @readAlgorithmKey_shrinks
  have nothing := @readMember_shrinks _ _ readNothing_shrinks
  simp only [Shrinks] at key nothing
  unfold readTaggedAlgorithm at done
  grind

theorem readAlgorithm_shrinks : Shrinks readAlgorithm := by
  intro bytes value rest done
  have blanks := skipBlanks_length_le
  have string := @readString_consumes
  have named := @algorithmOf_shrinks
  have tagged := @readTaggedAlgorithm_shrinks
  simp only [Consumes] at string
  simp only [Shrinks] at named tagged
  unfold readAlgorithm at done
  grind

/-! ### Headers -/

/-- A header on its way to an algorithm. -/
structure Header where
  algorithm : Option Algorithm
deriving DecidableEq, Repr

namespace Header

/-- Reads a field whose value is not kept. -/
def readHint {α : Type} (header : Header) (read : Bytes → Reading α) (bytes : Bytes) :
    Reading Header :=
  match readOptional read bytes with
  | .error fault => .error fault
  | .ok (_, rest) => .ok (header, rest)

/-- Reads the value of a field: the algorithm, a chain of certificates, a key, or a string. -/
def readField (header : Header) (name : String) (bytes : Bytes) : Reading Header :=
  if name = "alg" then
    match readAlgorithm bytes with
    | .error fault => .error fault
    | .ok (algorithm, rest) => .ok (⟨some algorithm⟩, rest)
  else if name = "x5c" then header.readHint readTextList bytes
  else if name = "jwk" then header.readHint readWebKey bytes
  else header.readHint readText bytes

theorem readHint_shrinks {α : Type} (header : Header) {read : Bytes → Reading α}
    (shrinks : Shrinks read) : Shrinks (header.readHint read) := by
  intro bytes value rest done
  have optional := @readOptional_shrinks _ _ shrinks
  simp only [Shrinks] at optional
  unfold readHint at done
  grind

theorem readField_shrinks (header : Header) (name : String) :
    Shrinks (header.readField name) := by
  intro bytes value rest done
  have algorithm := @readAlgorithm_shrinks
  have texts := @readHint_shrinks _ header _ readTextList_consumes.shrinks
  have key := @readHint_shrinks _ header _ readWebKey_consumes.shrinks
  have text := @readHint_shrinks _ header _ readText_consumes.shrinks
  simp only [Shrinks] at algorithm texts key text
  unfold readField at done
  grind

/-- The names of the fields, in order. -/
def names : List String :=
  ["typ", "alg", "cty", "jku", "jwk", "kid", "x5u", "x5c", "x5t", "x5t#S256"]

/-- Headers as a record, which cannot do without the algorithm. -/
def record : Record Header where
  title := "struct Header"
  names := names
  required := ["alg"]
  start := ⟨none⟩
  read := readField
  read_shrinks := readField_shrinks

/-- The header that a text holds. -/
def parse (text : Bytes) : Except Diagnostic Header :=
  record.parse text

/-- The header of issued tokens. -/
def standardText : String :=
  "\x7b\"typ\":\"JWT\",\"alg\":\"HS256\"\x7d"

end Header

end TokenService.Token
