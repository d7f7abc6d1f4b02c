import TokenService.Text.Hex

/-!
# Writing JSON

Texts are written compactly: no blanks between the parts, and in a string only what has to be
escaped is escaped. That is the quote, the backslash and the control characters below the space;
five of these have letters of their own, the others four hexadecimal digits.
-/

set_option autoImplicit false
set_option relaxedAutoImplicit false

namespace TokenService.Json

/-- One character of a string. -/
def escape (character : Char) : List Char :=
  if character = '"' then ['\\', '"']
  else if character = '\\' then ['\\', '\\']
  else if character = '\x08' then ['\\', 'b']
  else if character = '\x0c' then ['\\', 'f']
  else if character = '\n' then ['\\', 'n']
  else if character = '\r' then ['\\', 'r']
  else if character = '\t' then ['\\', 't']
  else if character.toNat < 0x20 then
    ['\\', 'u', '0', '0', Text.Hex.digit (character.toNat / 16),
      Text.Hex.digit (character.toNat % 16)]
  else [character]

/-- A string between its quotes. -/
def renderText (text : String) : List Char :=
  '"' :: text.toList.flatMap escape ++ ['"']

/-- The elements of a list with commas between them. -/
def separated : List (List Char) → List Char
  | [] => []
  | [element] => element
  | element :: elements => element ++ ',' :: separated elements

/-- A list of strings. -/
def renderTexts (texts : List String) : List Char :=
  '[' :: separated (texts.map renderText) ++ [']']

end TokenService.Json
