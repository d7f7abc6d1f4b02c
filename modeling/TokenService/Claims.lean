import TokenService.Json.Printer
import TokenService.Json.Record

/-!
# Claims

What a token says: whom it speaks of, when it expires, and which channels its bearer may join.
Claims are written as a JSON object of three members, `sub`, `exp` and `channels`, in this order and
without blanks. They are read from any JSON object that has these members once each, or from a list
of the three values.
-/

set_option autoImplicit false
set_option relaxedAutoImplicit false

namespace TokenService

/-- The content of a token. The expiry counts seconds since the epoch and is meant to fit 64 bits.
-/
structure Claims where
  subject : String
  expiry : Int
  channels : List String
deriving DecidableEq, Repr

namespace Claims

/-- The channels that every issued token subscribes its bearer to. -/
def standardChannels : List String := ["testchan", "otherchan"]

/-- The claims of an issued token. -/
def standard (subject : String) (expiry : Int) : Claims :=
  ⟨subject, expiry, standardChannels⟩

/-- Whether the claims could be those of an issued token. -/
def isStandard (claims : Claims) : Bool :=
  claims = standard claims.subject claims.expiry

/-! ### Writing -/

/-- The characters of the written form. -/
def render (claims : Claims) : List Char :=
  "\x7b\"sub\":".toList ++ Json.renderText claims.subject ++
    ",\"exp\":".toList ++ Decimal.Integer.render claims.expiry ++
    ",\"channels\":".toList ++ Json.renderTexts claims.channels ++ ['\x7d']

/-- The written form. -/
def text (claims : Claims) : String :=
  String.ofList claims.render

/-! ### Reading -/

/-- Reads the value of a claim. -/
def readClaim (claims : Claims) (name : String) (bytes : Bytes) : Json.Reading Claims :=
  if name = "sub" then
    match Json.readText bytes with
    | .error fault => .error fault
    | .ok (subject, rest) => .ok ({ claims with subject }, rest)
  else if name = "exp" then
    match Json.readInteger bytes with
    | .error fault => .error fault
    | .ok (expiry, rest) => .ok ({ claims with expiry }, rest)
  else
    match Json.readTextList bytes with
    | .error fault => .error fault
    | .ok (channels, rest) => .ok ({ claims with channels }, rest)

theorem readClaim_shrinks (claims : Claims) (name : String) :
    Json.Shrinks (readClaim claims name) := by
  intro bytes value rest done
  have text := @Json.readText_consumes
  have integer := @Json.readInteger_consumes
  have texts := @Json.readTextList_consumes
  simp only [Json.Consumes] at text integer texts
  unfold readClaim at done
  grind

/-- The names of the claims, in order. -/
def names : List String := ["sub", "exp", "channels"]

/-- Claims as a record, all three of whose fields are needed. -/
def record : Json.Record Claims where
  title := "struct Claims"
  names := names
  required := names
  start := ⟨"", 0, []⟩
  read := readClaim
  read_shrinks := readClaim_shrinks

/-- The claims that a text holds. -/
def parse (text : Bytes) : Except Json.Diagnostic Claims :=
  record.parse text

end Claims

end TokenService
