import TokenService.Base64Url
import TokenService.Json.Fault

/-!
# Faults of tokens

Why a token could not be made or was not accepted. A bearer is told less: that the signature is
wrong, that the token has expired, or that it is malformed, and only then how.
-/

set_option autoImplicit false
set_option relaxedAutoImplicit false

namespace TokenService.Token

/-- What is wrong with a token or a key. -/
inductive Fault
  | invalidToken
  | invalidSignature
  | invalidEcdsaKey
  | invalidEddsaKey
  | invalidRsaKey (reason : String)
  | rsaFailedSigning
  | invalidAlgorithmName
  | invalidKeyFormat
  | missingClaim (name : String)
  | expiredSignature
  | invalidIssuer
  | invalidAudience
  | invalidSubject
  | immatureSignature
  | invalidAlgorithm
  | missingAlgorithm
  | base64 (fault : Base64Url.Fault)
  | json (diagnostic : Json.Diagnostic)
deriving DecidableEq, Repr

/-- The text of a fault. -/
def Fault.message : Fault → String
  | .invalidToken => "InvalidToken"
  | .invalidSignature => "InvalidSignature"
  | .invalidEcdsaKey => "InvalidEcdsaKey"
  | .invalidEddsaKey => "InvalidEddsaKey"
  | .invalidRsaKey reason => "RSA key invalid: " ++ reason
  | .rsaFailedSigning => "RsaFailedSigning"
  | .invalidAlgorithmName => "InvalidAlgorithmName"
  | .invalidKeyFormat => "InvalidKeyFormat"
  | .missingClaim name => "Missing required claim: " ++ name
  | .expiredSignature => "ExpiredSignature"
  | .invalidIssuer => "InvalidIssuer"
  | .invalidAudience => "InvalidAudience"
  | .invalidSubject => "InvalidSubject"
  | .immatureSignature => "ImmatureSignature"
  | .invalidAlgorithm => "InvalidAlgorithm"
  | .missingAlgorithm => "MissingAlgorithm"
  | .base64 fault => "Base64 error: " ++ fault.message
  | .json diagnostic => "JSON error: " ++ diagnostic.message

/-- What the bearer of a token is told. -/
inductive Rejection
  | invalidSignature
  | expired
  | malformed (fault : Fault)
deriving DecidableEq, Repr

namespace Rejection

/-- The rejection for a fault. -/
def ofFault : Fault → Rejection
  | .invalidSignature => .invalidSignature
  | .expiredSignature => .expired
  | fault => .malformed fault

/-- The text of a rejection. -/
def message : Rejection → String
  | .invalidSignature => "invalid token signature"
  | .expired => "token has expired"
  | .malformed fault => "malformed token: " ++ fault.message

end Rejection

end TokenService.Token
