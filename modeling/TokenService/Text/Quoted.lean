import TokenService.Text.Visible

/-!
# Quoted text

How a text is shown inside a diagnostic: between double quotes, with everything that would not show
written as an escape. A quote and a backslash get a backslash in front, the four common controls
have letters of their own, and any other character that does not show is given by its code point.
-/

set_option autoImplicit false
set_option relaxedAutoImplicit false

namespace TokenService.Text.Quoted

/-- The hexadecimal digits of a code point, without leading zeros. -/
def codePoint (character : Char) : List Char :=
  Nat.toDigits 16 character.toNat

/-- One character between quotes. -/
def escape (character : Char) : List Char :=
  if character = '"' then ['\\', '"']
  else if character = '\\' then ['\\', '\\']
  else if character = '\n' then ['\\', 'n']
  else if character = '\r' then ['\\', 'r']
  else if character = '\t' then ['\\', 't']
  else if character = '\x00' then ['\\', '0']
  else if Visible.isVisible character then [character]
  else ['\\', 'u', '\x7b'] ++ codePoint character ++ ['\x7d']

/-- A text between quotes. -/
def quote (text : String) : String :=
  String.ofList ('"' :: text.toList.flatMap escape ++ ['"'])

end TokenService.Text.Quoted
