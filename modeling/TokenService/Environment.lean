import TokenService.Text.Quoted
import TokenService.Text.Utf8

/-!
# Environments

The variables of a process. Their values are bytes; one that is no text counts as not set. The
system keeps a variable as one entry, its name and its value with an equals sign between them, and
finds it by what the entry begins with; so a name that holds such a sign itself reaches into a
value, and the empty name reaches nothing (`reach?`). A zero byte ends an entry, so no value can
hold one (`define`).
-/

set_option autoImplicit false
set_option relaxedAutoImplicit false

namespace TokenService

/-- Variables and their values. -/
abbrev Environment := List (String × Bytes)

namespace Environment

/-- The text of a variable. -/
def text? (environment : Environment) (name : String) : Option String :=
  (environment.lookup name).bind Text.Utf8.decode?

/-- What is behind a front, if some bytes begin with it. -/
def behind? (front bytes : Bytes) : Option Bytes :=
  if front.isPrefixOf bytes then some (bytes.drop front.length) else none

/-- The text that a name reaches. The name of the variable ends at the first equals sign. What
follows must begin the value, with an equals sign of its own behind it, and the text is the rest. -/
def reach? (environment : Environment) (name : String) : Option String :=
  match name.toList.dropWhile (· ≠ '=') with
  | [] => if name = "" then none else environment.text? name
  | _ :: inner =>
    let owner := String.ofList (name.toList.takeWhile (· ≠ '='))
    let front := Text.Utf8.encode (String.ofList (inner ++ ['=']))
    ((environment.lookup owner).bind (behind? front)).bind Text.Utf8.decode?

/-- A variable and the value that the system does not take for it. -/
structure Fault where
  name : String
  value : String
deriving DecidableEq, Repr

/-- What is said of a value that the system does not take. -/
def Fault.message (fault : Fault) : String :=
  "failed to set environment variable `" ++ Text.Quoted.quote fault.name ++ "` to `" ++
    Text.Quoted.quote fault.value ++ "`: file name contained an unexpected NUL byte"

/-- Gives a variable a value, unless it has one that is a text. The value must not hold a zero. -/
def define (environment : Environment) (name value : String) : Except Fault Environment :=
  if (environment.text? name).isSome then .ok environment
  else if '\x00' ∈ value.toList then .error ⟨name, value⟩
  else .ok ((name, Text.Utf8.encode value) :: environment)

/-- The parts of a block, each ended by a zero byte. -/
def entries : Bytes → List Bytes
  | [] => []
  | byte :: rest =>
    if byte = 0 then [] :: entries rest
    else
      match entries rest with
      | [] => [[byte]]
      | entry :: others => (byte :: entry) :: others

/-- The variable of an entry, whose name ends at the first equals sign. -/
def ofEntry? (entry : Bytes) : Option (String × Bytes) :=
  (Text.Utf8.decode? (entry.takeWhile (· ≠ ascii '='))).map
    fun name ↦ (name, (entry.dropWhile (· ≠ ascii '=')).tail)

/-- The variables of a block in which the system hands them over. -/
def ofBlock (block : Bytes) : Environment :=
  (entries block).filterMap ofEntry?

end Environment

end TokenService
