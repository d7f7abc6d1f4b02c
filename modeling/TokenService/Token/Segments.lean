import TokenService.Text.Utf8

/-!
# Segments of a token

A token is three segments with dots between them. The last dot sets off the signature and the one
before it the payload, so what stands before them is the header whatever dots it holds.
-/

set_option autoImplicit false
set_option relaxedAutoImplicit false

namespace TokenService.Token

/-- The byte between segments. -/
def dot : UInt8 := ascii '.'

/-- The bytes before and after the last dot. -/
def splitLast? : Bytes → Option (Bytes × Bytes)
  | [] => none
  | byte :: rest =>
    match splitLast? rest with
    | some (before, after) => some (byte :: before, after)
    | none => if byte = dot then some ([], rest) else none

/-- The segments of a token. -/
structure Segments where
  header : Bytes
  payload : Bytes
  signature : Bytes
deriving DecidableEq, Repr

namespace Segments

/-- What is signed. -/
def message (segments : Segments) : Bytes :=
  segments.header ++ dot :: segments.payload

/-- The token of some segments. -/
def toBytes (segments : Segments) : Bytes :=
  segments.message ++ dot :: segments.signature

/-- The segments of a token. -/
def ofBytes? (bytes : Bytes) : Option Segments :=
  match splitLast? bytes with
  | none => none
  | some (message, signature) =>
    match splitLast? message with
    | none => none
    | some (header, payload) => some ⟨header, payload, signature⟩

end Segments

end TokenService.Token
