import TokenService.Claims
import TokenService.Digest.Hmac
import TokenService.Refusal
import TokenService.Token.Header
import TokenService.Token.Registered
import TokenService.Token.Segments

/-!
# The issuer

An issuer holds a secret. It issues tokens that carry the standard claims, which fails if the expiry
leaves the range of 64 bits, or if the key is none for the algorithm in use. It reads tokens back:
the header must name that algorithm and the signature must be the issuer's own before the payload is
looked at. `verify` accepts a token up to and including the second of its expiry, `decode` at any
time. Neither accepts a token that is meant for an audience.
-/

set_option autoImplicit false
set_option relaxedAutoImplicit false

namespace TokenService

open Token

/-- A maker and reader of tokens. -/
structure Issuer where
  secret : Bytes
deriving DecidableEq, Repr

namespace Issuer

/-- How an issuer is shown: never with its secret. -/
def describe (_ : Issuer) : String :=
  "TokenIssuer \x7b secret: \"[hidden]\" \x7d"

/-- The signature segment of a message. -/
def sign (issuer : Issuer) (message : Bytes) : Bytes :=
  Base64Url.encode (Digest.Hmac.code issuer.secret message).toList

/-! ### Issuing -/

/-- The header segment of issued tokens. -/
def headerSegment : Bytes :=
  Base64Url.encode (asciiBytes Header.standardText)

/-- The payload segment of some claims. -/
def payloadSegment (claims : Claims) : Bytes :=
  Base64Url.encode (Text.Utf8.encode claims.text)

/-- The segments of the token for some claims. -/
def segments (issuer : Issuer) (claims : Claims) : Segments :=
  let payload := payloadSegment claims
  ⟨headerSegment, payload, issuer.sign (headerSegment ++ dot :: payload)⟩

/-- The key that an issuer signs with. -/
def key (issuer : Issuer) : Key :=
  .ofSecret issuer.secret

/-- The token for some claims under a key, which has to be one for the algorithm in use. -/
def signedBy (key : Key) (claims : Claims) : Except Token.Fault String :=
  if key.family ≠ Algorithm.hs256.family then .error .invalidAlgorithm
  else .ok (asciiText (segments ⟨key.content⟩ claims).toBytes)

/-- A token that speaks of a user and expires some seconds after a time. -/
def issueAt (issuer : Issuer) (user : String) (duration time : Int) : Except Refusal String :=
  match Decimal.Integer.add? time duration with
  | none => .error (.outOfRange "duration")
  | some expiry =>
    match signedBy issuer.key (.standard user expiry) with
    | .error fault => .error (.signing fault)
    | .ok token => .ok token

/-! ### Reading -/

/-- The header of a token. -/
def readHeader (segment : Bytes) : Except Token.Fault Header :=
  match Base64Url.decode segment with
  | .error fault => .error (.base64 fault)
  | .ok text =>
    match Header.parse text with
    | .error diagnostic => .error (.json diagnostic)
    | .ok header => .ok header

/-- The claims of a payload, its own and the registered ones. -/
def readPayload (segment : Bytes) : Except Token.Fault (Claims × Registered) :=
  match Base64Url.decode segment with
  | .error fault => .error (.base64 fault)
  | .ok text =>
    match Claims.parse text with
    | .error diagnostic => .error (.json diagnostic)
    | .ok claims =>
      match Registered.parse text with
      | .error diagnostic => .error (.json diagnostic)
      | .ok registered => .ok (claims, registered)

/-- The claims of a token that the issuer signed. -/
def authenticate (issuer : Issuer) (token : String) : Except Token.Fault (Claims × Registered) :=
  match Segments.ofBytes? (Text.Utf8.encode token) with
  | none => .error .invalidToken
  | some segments =>
    match readHeader segments.header with
    | .error fault => .error fault
    | .ok header =>
      if header.algorithm ≠ some .hs256 then .error .invalidAlgorithm
      else if segments.signature ≠ issuer.sign segments.message then .error .invalidSignature
      else readPayload segments.payload

/-- A claim that must be there. -/
def require (name : String) (isGiven : Bool) : Except Token.Fault Unit :=
  if isGiven then .ok () else .error (.missingClaim name)

/-- The claims, unless the token is meant for an audience. -/
def withoutAudience (claims : Claims) (registered : Registered) : Except Token.Fault Claims :=
  if registered.hasAudience then .error .invalidAudience else .ok claims

/-- The claims, if they hold at a time. -/
def heldAt (time : Int) (claims : Claims) (registered : Registered) :
    Except Token.Fault Claims := do
  match registered.expiry with
  | none => .error (.missingClaim "exp")
  | some expiry =>
    require "sub" registered.hasSubject
    if expiry < time then .error .expiredSignature else withoutAudience claims registered

/-- The claims, whenever they hold. -/
def heldEver (claims : Claims) (registered : Registered) : Except Token.Fault Claims := do
  require "sub" registered.hasSubject
  withoutAudience claims registered

/-- The claims of a signed token that pass a check, or what its bearer is told. -/
def examine (issuer : Issuer) (token : String)
    (check : Claims → Registered → Except Token.Fault Claims) : Except Rejection Claims :=
  match issuer.authenticate token with
  | .error fault => .error (.ofFault fault)
  | .ok (claims, registered) =>
    match check claims registered with
    | .error fault => .error (.ofFault fault)
    | .ok held => .ok held

/-- The claims of a token that holds at a time. -/
def verify (issuer : Issuer) (time : Int) (token : String) : Except Rejection Claims :=
  issuer.examine token (heldAt time)

/-- The claims of a token, expired or not. -/
def decode (issuer : Issuer) (token : String) : Except Rejection Claims :=
  issuer.examine token heldEver

end Issuer

end TokenService
