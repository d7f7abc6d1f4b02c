/-!
# Blank space

The characters with the property White_Space, and the trimming of a text by them. The class is wider
than the blanks of ASCII: it takes in the next-line control, the no-break and ideographic spaces and
the separators of lines and paragraphs, and it leaves out the zero-width ones.
-/

set_option autoImplicit false
set_option relaxedAutoImplicit false

namespace TokenService.Text.Space

/-- A character with the property White_Space. -/
def isSpace (character : Char) : Bool :=
  let value := character.toNat
  (0x09 ≤ value && value ≤ 0x0D) || value = 0x20 || value = 0x85 || value = 0xA0 ||
    value = 0x1680 || (0x2000 ≤ value && value ≤ 0x200A) || value = 0x2028 || value = 0x2029 ||
    value = 0x202F || value = 0x205F || value = 0x3000

/-- The characters from the first that is not blank. -/
def trimStart (characters : List Char) : List Char :=
  characters.dropWhile isSpace

/-- The characters up to the last that is not blank. -/
def trimEnd (characters : List Char) : List Char :=
  (characters.reverse.dropWhile isSpace).reverse

/-- The characters without blank ones at either end. -/
def trim (characters : List Char) : List Char :=
  trimEnd (trimStart characters)

end TokenService.Text.Space
