import TokenService.Text.Alphanumeric

/-!
# Values in a variable file

A value is bare or quoted, or is put together of such parts. Single quotes keep everything as it is.
Elsewhere a backslash escapes and a dollar sign names another variable, whose value is put in its
place. A bare blank ends the value; behind it only a comment may follow.
-/

set_option autoImplicit false
set_option relaxedAutoImplicit false

namespace TokenService.EnvFile

/-- The part of a value that is being read. Bare text and double quotes share their escapes and
names; `quoted` tells them apart. -/
inductive Part
  | plain (quoted : Bool)
  | escape (quoted : Bool)
  | strong
  | name (quoted : Bool) (name : List Char)
  | braced (quoted : Bool) (name : List Char)
  | ended
deriving DecidableEq, Repr

/-- The character that an escape stands for. -/
def escaped? (letter : Char) : Option Char :=
  if letter = 'n' then some '\n'
  else if letter ∈ ['\\', '\'', '"', '$', ' '] then some letter
  else none

/-- What a character begins in bare text or double quotes, if it does not stand for itself. -/
def begun? (quoted : Bool) (character : Char) : Option Part :=
  if character = '$' then some (.name quoted [])
  else if character = '\\' then some (.escape quoted)
  else if character = '"' then some (.plain !quoted)
  else if quoted then none
  else if character = '\'' then some .strong
  else if character = ' ' || character = '\t' then some .ended
  else none

/-- The value that some characters spell, from within a part. `none` where the characters break the
rules or leave a quote or a brace open. -/
def readValue (valueOf : String → String) (part : Part) :
    (characters : List Char) → Option (List Char)
  | [] =>
    match part with
    | .plain quoted => if quoted then none else some []
    | .escape quoted => if quoted then none else some []
    | .strong => none
    | .name quoted name => if quoted then none else some (valueOf (.ofList name)).toList
    | .braced .. => none
    | .ended => some []
  | character :: rest =>
    match part with
    | .plain quoted =>
      match begun? quoted character with
      | some next => readValue valueOf next rest
      | none => (readValue valueOf part rest).map (character :: ·)
    | .escape quoted =>
      match escaped? character with
      | some meant => (readValue valueOf (.plain quoted) rest).map (meant :: ·)
      | none => none
    | .strong =>
      if character = '\'' then readValue valueOf (.plain false) rest
      else (readValue valueOf part rest).map (character :: ·)
    | .name quoted name =>
      if Text.Alphanumeric.isAlphanumeric character then
        readValue valueOf (.name quoted (name ++ [character])) rest
      else if character = '\x7b' ∧ name = [] then readValue valueOf (.braced quoted []) rest
      else
        let value := (valueOf (.ofList name)).toList
        if character = '$' then (readValue valueOf (.name quoted []) rest).map (value ++ ·)
        else (readValue valueOf (.plain quoted) rest).map (value ++ character :: ·)
    | .braced quoted name =>
      if character = '\x7d' then
        let value := (valueOf (.ofList name)).toList
        (readValue valueOf (.plain quoted) rest).map (value ++ ·)
      else readValue valueOf (.braced quoted (name ++ [character])) rest
    | .ended =>
      if character = ' ' || character = '\t' then readValue valueOf .ended rest
      else if character = '#' then some []
      else none

end TokenService.EnvFile
