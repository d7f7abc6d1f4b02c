import TokenService.Json.Keep
import TokenService.Json.Record

/-!
# Registered claims

Beside its own claims a payload may hold claims that every token can have: when it expires, from
when it is valid, of whom it speaks, who issued it and for whom it is meant. They are looked at
leniently: a claim of another kind than expected counts as not given. Given twice, though, it is a
fault, and so is a claim that is broken in a way that the text does not recover from.
-/

set_option autoImplicit false
set_option relaxedAutoImplicit false

namespace TokenService.Token

open Json

/-- What the registered claims of a payload say: the expiry as a natural number, whether there is a
subject, and whether there is an audience. -/
structure Registered where
  expiry : Option Nat
  hasSubject : Bool
  hasAudience : Bool
deriving DecidableEq, Repr

namespace Registered

/-! ### Lenient values -/

/-- The natural number of a scalar that is one. -/
def naturalOf : Scalar → Option Nat
  | .number (.natural value) => some value
  | _ => none

/-- The natural number of a value that is one, and the bytes behind the value. -/
def readMoment (bytes : Bytes) : Option Nat × Bytes :=
  match skipBlanks bytes with
  | [] => (none, [])
  | byte :: rest =>
    if byte = ascii '[' then (none, afterList rest)
    else if byte = ascii '\x7b' then (none, afterObject rest)
    else
      match readScalar (byte :: rest) with
      | .error fault => (none, fault.unread)
      | .ok (scalar, others) => (naturalOf scalar, others)

/-- Whether a value is a string, and the bytes behind it. -/
def readSubject (bytes : Bytes) : Bool × Bytes :=
  match readOptional readText bytes with
  | .error fault => (false, fault.unread)
  | .ok (text, rest) => (text.isSome, rest)

/-- Whether a value is a string or a list of strings, and the bytes behind it. -/
def readAudience (bytes : Bytes) : Bool × Bytes :=
  match readText bytes with
  | .ok (_, rest) => (true, rest)
  | .error _ =>
    match readTextList bytes with
    | .ok (_, rest) => (true, rest)
    | .error _ => (false, passKept bytes)

theorem readMoment_length_le (bytes : Bytes) : (readMoment bytes).2.length ≤ bytes.length := by
  have blanks := skipBlanks_length_le bytes
  have list := afterList_length_le
  have object := afterObject_length_le
  have scalar := @readScalar_consumes
  have scalarFault := @readScalar_faultsWithin
  simp only [Consumes] at scalar
  simp only [FaultsWithin] at scalarFault
  unfold readMoment
  split
  · simp
  · repeat' split
    all_goals grind

theorem readSubject_length_le (bytes : Bytes) : (readSubject bytes).2.length ≤ bytes.length := by
  have text := @readOptional_shrinks _ _ readText_consumes.shrinks
  have textFault := @readOptional_faultsWithin _ _ readText_faultsWithin
  simp only [Shrinks] at text
  simp only [FaultsWithin] at textFault
  unfold readSubject
  grind

theorem readAudience_length_le (bytes : Bytes) :
    (readAudience bytes).2.length ≤ bytes.length := by
  have text := @readText_consumes
  have texts := @readTextList_consumes
  have kept := passKept_length_le bytes
  simp only [Consumes] at text texts
  unfold readAudience
  grind

/-! ### The record -/

/-- Reads the value of a claim. -/
def readClaim (registered : Registered) (name : String) (bytes : Bytes) : Reading Registered :=
  if name = "exp" then
    let (expiry, rest) := readMoment bytes
    .ok ({ registered with expiry }, rest)
  else if name = "nbf" then .ok (registered, (readMoment bytes).2)
  else if name = "sub" then
    let (hasSubject, rest) := readSubject bytes
    .ok ({ registered with hasSubject }, rest)
  else if name = "iss" then .ok (registered, passKept bytes)
  else
    let (hasAudience, rest) := readAudience bytes
    .ok ({ registered with hasAudience }, rest)

theorem readClaim_shrinks (registered : Registered) (name : String) :
    Shrinks (registered.readClaim name) := by
  intro bytes value rest done
  have moment := readMoment_length_le bytes
  have subject := readSubject_length_le bytes
  have kept := passKept_length_le bytes
  have audience := readAudience_length_le bytes
  unfold readClaim at done
  grind

/-- The names of the claims, in order. -/
def names : List String := ["exp", "nbf", "sub", "iss", "aud"]

/-- Registered claims as a record that can do without any of its fields. -/
def record : Record Registered where
  title := "registered claims"
  names := names
  required := []
  start := ⟨none, false, false⟩
  read := readClaim
  read_shrinks := readClaim_shrinks

/-- The registered claims that a text holds. -/
def parse (text : Bytes) : Except Diagnostic Registered :=
  record.parse text

end Registered

end TokenService.Token
