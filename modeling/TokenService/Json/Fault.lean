import TokenService.Decimal.Shortest
import TokenService.Text.Quoted
import TokenService.Text.Utf8

/-!
# Faults in JSON texts

What can be wrong with a JSON text, as a cause (`Problem`) and a place. A place is given by the
bytes that follow it, so that a reader which sees only the rest of a text can name it;
`Fault.locate` turns it into a line and a column of the whole text. Lines are counted from one; the
column is the number of bytes since the last line feed.

A fault also records which bytes were still unread when it was found. The two differ where the
offending byte was seen but not taken.
-/

set_option autoImplicit false
set_option relaxedAutoImplicit false

namespace TokenService.Json

/-- A value of another kind than the one wanted. -/
inductive Found
  | null
  | boolean (value : Bool)
  | integer (value : Int)
  | float (negative : Bool) (magnitude : Decimal.Binary64)
  | text (value : String)
  | sequence
  | map
deriving DecidableEq, Repr

/-- How a diagnostic names the value. -/
def Found.describe : Found → String
  | .null => "null"
  | .boolean value => "boolean `" ++ (if value then "true" else "false") ++ "`"
  | .integer value => "integer `" ++ Decimal.Integer.text value ++ "`"
  | .float negative magnitude =>
    "floating point `" ++ (if negative then "-" else "") ++
      String.ofList (Decimal.Shortest.render magnitude) ++ "`"
  | .text value => "string " ++ Text.Quoted.quote value
  | .sequence => "sequence"
  | .map => "map"

/-- What is wrong with a text. -/
inductive Problem
  | endInValue
  | endInObject
  | endInList
  | endInString
  | expectedColon
  | expectedListEnd
  | expectedObjectEnd
  | expectedIdentifier
  | expectedValue
  | keyNotString
  | trailingComma
  | trailingCharacters
  | controlCharacter
  | invalidEscape
  | loneSurrogate
  | unfinishedPair
  | invalidCodePoint
  | invalidNumber
  | numberOutOfRange
  | wrongType (found : Found) (wanted : String)
  | integerOutOfRange (value : Nat)
  | wrongLength (length : Nat) (wanted : String)
  | missingField (name : String)
  | duplicateField (name : String)
  | unknownVariant (name : String) (known : List String)
  | noVariant (union : String)
  | notOneKey
  | nestedTooDeep
deriving DecidableEq, Repr

/-- A name in backticks. -/
def ticked (name : String) : String :=
  "`" ++ name ++ "`"

/-- The text of a problem. -/
def Problem.message : Problem → String
  | .endInValue => "EOF while parsing a value"
  | .endInObject => "EOF while parsing an object"
  | .endInList => "EOF while parsing a list"
  | .endInString => "EOF while parsing a string"
  | .expectedColon => "expected `:`"
  | .expectedListEnd => "expected `,` or `]`"
  | .expectedObjectEnd => "expected `,` or `\x7d`"
  | .expectedIdentifier => "expected ident"
  | .expectedValue => "expected value"
  | .keyNotString => "key must be a string"
  | .trailingComma => "trailing comma"
  | .trailingCharacters => "trailing characters"
  | .controlCharacter => "control character (\\u0000-\\u001F) found while parsing a string"
  | .invalidEscape => "invalid escape"
  | .loneSurrogate => "lone leading surrogate in hex escape"
  | .unfinishedPair => "unexpected end of hex escape"
  | .invalidCodePoint => "invalid unicode code point"
  | .invalidNumber => "invalid number"
  | .numberOutOfRange => "number out of range"
  | .wrongType found wanted => "invalid type: " ++ found.describe ++ ", expected " ++ wanted
  | .integerOutOfRange value =>
    "invalid value: integer " ++ ticked (Decimal.Integer.text value) ++ ", expected i64"
  | .wrongLength length wanted =>
    "invalid length " ++ Decimal.Integer.text length ++ ", expected " ++ wanted
  | .missingField name => "missing field " ++ ticked name
  | .duplicateField name => "duplicate field " ++ ticked name
  | .unknownVariant name known =>
    "unknown variant " ++ ticked name ++ ", expected one of " ++
      String.intercalate ", " (known.map ticked)
  | .noVariant union => "data did not match any variant of untagged enum " ++ union
  | .notOneKey => "invalid value: map, expected map with a single key"
  | .nestedTooDeep => "recursion limit exceeded"

/-- A problem, the bytes after its place, and the bytes still unread when it was found. -/
structure Fault where
  problem : Problem
  after : Bytes
  unread : Bytes
deriving DecidableEq, Repr

/-- A fault that ends where the unread bytes begin. -/
def Fault.before (problem : Problem) (unread : Bytes) : Fault :=
  ⟨problem, unread, unread⟩

/-- A fault of the first unread byte, or of the end of the text. -/
def Fault.facing (problem : Problem) (unread : Bytes) : Fault :=
  ⟨problem, unread.tail, unread⟩

/-! ### Places -/

/-- The byte that ends a line. -/
def lineFeed : UInt8 := ascii '\n'

/-- The bytes of a text up to the place that `after` follows. -/
def passed (text after : Bytes) : Bytes :=
  text.take (text.length - after.length)

/-- The line that the bytes so far lead to. -/
def line (seen : Bytes) : Nat :=
  seen.count lineFeed + 1

/-- The number of bytes since the last line feed. -/
def column (seen : Bytes) : Nat :=
  (seen.reverse.takeWhile (· ≠ lineFeed)).length

/-- A problem with its place in a text. -/
structure Diagnostic where
  problem : Problem
  line : Nat
  column : Nat
deriving DecidableEq, Repr

/-- The place of a fault in the whole text. -/
def Fault.locate (text : Bytes) (fault : Fault) : Diagnostic :=
  let seen := passed text fault.after
  ⟨fault.problem, line seen, column seen⟩

/-- The text of a diagnostic. -/
def Diagnostic.message (diagnostic : Diagnostic) : String :=
  diagnostic.problem.message ++ " at line " ++ Decimal.Integer.text diagnostic.line ++
    " column " ++ Decimal.Integer.text diagnostic.column

end TokenService.Json
