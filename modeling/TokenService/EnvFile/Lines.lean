import TokenService.Text.Space
import TokenService.Text.Utf8

/-!
# Lines of a variable file

A line of the file ends at a line feed, but one that is inside quotes goes on after it.
`logicalLines` joins such lines and cuts comments off. It decides by a scan of its own, which knows
quotes, backslashes and blank space and nothing else of the format. A line is bad, which is written
`none`, if it is no text or the file ends inside it.
-/

set_option autoImplicit false
set_option relaxedAutoImplicit false

namespace TokenService.EnvFile

/-- The bytes that may stand at the front of a text file to mark its encoding. -/
def mark : Bytes := [0xEF, 0xBB, 0xBF]

/-- The bytes of a file without the mark. -/
def withoutMark (bytes : Bytes) : Bytes :=
  if mark.isPrefixOf bytes then bytes.drop mark.length else bytes

/-- The lines of a file, each with its line feed. -/
def splitLines : Bytes → List Bytes
  | [] => []
  | byte :: rest =>
    if byte = ascii '\n' then [byte] :: splitLines rest
    else
      match splitLines rest with
      | [] => [[byte]]
      | line :: lines => (byte :: line) :: lines

/-! ### The scan -/

/-- What a character of a line is in. -/
inductive Context
  | plain
  | space
  | escape
  | weak
  | weakEscape
  | strong
  | strongEscape
deriving DecidableEq, Repr

/-- The context after a character that opens something, or opens nothing. -/
def opened (character : Char) : Context :=
  if character = '\\' then .escape
  else if character = '"' then .weak
  else if character = '\'' then .strong
  else .plain

/-- Blank space inside a line. -/
def isInnerSpace (character : Char) : Bool :=
  Text.Space.isSpace character && character ≠ '\n' && character ≠ '\r'

/-- The context after a character. -/
def advance (context : Context) (character : Char) : Context :=
  match context with
  | .plain => if isInnerSpace character then .space else opened character
  | .space => opened character
  | .escape => .plain
  | .weak =>
    if character = '\\' then .weakEscape else if character = '"' then .plain else .weak
  | .weakEscape => .weak
  | .strong =>
    if character = '\\' then .strongEscape else if character = '\'' then .plain else .strong
  | .strongEscape => .strong

/-- How a line ends: in a context, or in a comment with the given characters before it. -/
inductive LineEnd
  | within (context : Context)
  | comment (before : List Char)

/-- Finds out how a line ends. A comment begins at a number sign right behind a space. -/
def scan (context : Context) : List Char → LineEnd
  | [] => .within context
  | character :: rest =>
    if context = .space ∧ character = '#' then .comment []
    else
      match scan (advance context character) rest with
      | .comment before => .comment (character :: before)
      | .within last => .within last

/-! ### Joining -/

/-- Whether a text has nothing in front of a number sign. -/
def isComment (text : List Char) : Bool :=
  (Text.Space.trimStart text).head? = some '#'

/-- Joins lines, given the text and the context that the lines before have left open. -/
def joinLines (text : List Char) (context : Context) :
    List (Option (List Char)) → List (Option (List Char))
  | [] => if context = .plain then [] else [none]
  | none :: _ => [none]
  | some line :: lines =>
    if isComment (text ++ line) then some [] :: joinLines [] .plain lines
    else
      match scan context line with
      | .comment before => some (text ++ before) :: joinLines [] .plain lines
      | .within last =>
        if last = .plain then some (text ++ line) :: joinLines [] .plain lines
        else joinLines (text ++ line) last lines

/-- The lines of a file up to the first bad one. -/
def logicalLines (bytes : Bytes) : List (Option (List Char)) :=
  joinLines [] .plain ((splitLines (withoutMark bytes)).map Text.Utf8.decodeChars?)

end TokenService.EnvFile
