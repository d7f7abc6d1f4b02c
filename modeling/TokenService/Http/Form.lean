import TokenService.Http.Percent

/-!
# Forms

A query is a list of named values with ampersands between them; empty parts are left out. A name
ends at the first equals sign. In names and values a plus sign is a space, bytes may be
percent-encoded, and what is then no text is replaced.
-/

set_option autoImplicit false
set_option relaxedAutoImplicit false

namespace TokenService.Http.Form

/-- The parts of some bytes between separators. -/
def split (separator : UInt8) : Bytes → List Bytes
  | [] => [[]]
  | byte :: rest =>
    if byte = separator then [] :: split separator rest
    else
      match split separator rest with
      | [] => [[byte]]
      | part :: parts => (byte :: part) :: parts

/-- A byte with a plus sign turned into a space. -/
def plusToSpace (byte : UInt8) : UInt8 :=
  if byte = ascii '+' then ascii ' ' else byte

/-- The text of a name or a value. -/
def decode (bytes : Bytes) : String :=
  Text.Utf8.decodeLossy (Percent.decode (bytes.map plusToSpace))

/-- The name and the value of a part. -/
def pair (part : Bytes) : String × String :=
  (decode (part.takeWhile (· ≠ ascii '=')), decode (part.dropWhile (· ≠ ascii '=')).tail)

/-- The named values of a query. -/
def pairs (query : Bytes) : List (String × String) :=
  ((split (ascii '&') query).filter (!·.isEmpty)).map pair

end TokenService.Http.Form
