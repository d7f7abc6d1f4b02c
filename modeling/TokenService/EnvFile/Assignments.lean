import TokenService.EnvFile.Lines
import TokenService.EnvFile.Value
import TokenService.Environment

/-!
# Assignments in a variable file

A line of the file assigns a value to a name, or is blank. Reading stops at the first bad line, and
what stands before it counts. Each assignment takes effect at once, so that later values can name
it, but none overrides a variable that has a value already: `extend` gives the environment after all
of them. An assignment that the system does not take is fatal, and nothing behind it is read.
-/

set_option autoImplicit false
set_option relaxedAutoImplicit false

namespace TokenService.EnvFile

/-- Names and the values assigned to them, in order. -/
abbrev Assignments := List (String × String)

/-! ### Lines -/

/-- What a line says. -/
inductive Content
  | blank
  | assignment (name value : String)

/-- A letter or an underscore. -/
def isNameStart (character : Char) : Bool :=
  character.isAlpha || character = '_'

/-- A character of a name behind its first. -/
def isNamePart (character : Char) : Bool :=
  character.isAlphanum || character = '_' || character = '.'

/-- The name at the front of some characters, and what is behind it and the space after it. -/
def takeName? (characters : List Char) : Option (List Char × List Char) :=
  if characters.head?.any isNameStart then
    some (characters.takeWhile isNamePart, Text.Space.trimStart (characters.dropWhile isNamePart))
  else none

/-- The word that may stand before a name, and may be a name itself. -/
def exportWord : List Char := "export".toList

/-- The name that a line assigns to, and the characters behind the sign after it. -/
def takeTarget? (characters : List Char) : Option (List Char × List Char) :=
  match takeName? characters with
  | none => none
  | some (name, '=' :: rest) => some (name, rest)
  | some (name, rest) =>
    if name = exportWord then
      match takeName? rest with
      | some (other, '=' :: others) => some (other, others)
      | _ => none
    else none

/-- Whether nothing but a comment is left. -/
def isBlank (characters : List Char) : Bool :=
  characters.isEmpty || characters.head? = some '#'

/-- What a line says, if it is not bad. -/
def readLine (valueOf : String → String) (line : List Char) : Option Content :=
  let characters := Text.Space.trim line
  if isBlank characters then some .blank
  else
    match takeTarget? characters with
    | none => none
    | some (name, rest) =>
      let value := Text.Space.trimStart rest
      if isBlank value then some (.assignment (.ofList name) "")
      else
        match readValue valueOf (.plain false) value with
        | none => none
        | some meant => some (.assignment (.ofList name) (.ofList meant))

/-! ### Files -/

/-- The value that a name stands for inside other values. -/
def valueOf (environment : Environment) (name : String) : String :=
  (environment.reach? name).getD ""

/-- The assignments of some lines before the first bad one. -/
def assignmentsOf (environment : Environment) : List (Option (List Char)) → Assignments
  | [] => []
  | none :: _ => []
  | some line :: lines =>
    match readLine (valueOf environment) line with
    | none => []
    | some .blank => assignmentsOf environment lines
    | some (.assignment name value) =>
      (name, value) ::
        match environment.define name value with
        | .error _ => []
        | .ok next => assignmentsOf next lines

/-- The assignments of a file. -/
def assignments (environment : Environment) (file : Bytes) : Assignments :=
  assignmentsOf environment (logicalLines file)

/-- An environment after some assignments. -/
def carryOut (environment : Environment) (assignments : Assignments) :
    Except Environment.Fault Environment :=
  assignments.foldlM (fun current (name, value) ↦ current.define name value) environment

/-- An environment after the assignments of a file. -/
def extend (environment : Environment) (file : Bytes) : Except Environment.Fault Environment :=
  carryOut environment (assignments environment file)

end TokenService.EnvFile
