import TokenService.Text.Utf8

/-!
# Request targets

What a request is about: a path and a query. A target is written as the two alone, behind a scheme
and an authority, as an authority alone, or as an asterisk. Scheme, authority and fragment are
checked as far as they must be and then dropped; an authority alone has no path.
-/

set_option autoImplicit false
set_option relaxedAutoImplicit false

namespace TokenService.Http

/-- A path and a query, as they are written. -/
structure Target where
  path : Bytes
  query : Bytes
deriving DecidableEq, Repr

namespace Target

/-- What is wrong with a target. -/
inductive Fault
  | empty
  | tooLong
  | invalidCharacter
  | invalidFormat
  | invalidAuthority
  | schemeTooLong
deriving DecidableEq, Repr

/-- The text of a fault. -/
def Fault.message : Fault → String
  | .empty => "empty string"
  | .tooLong => "uri too long"
  | .invalidCharacter => "invalid uri character"
  | .invalidFormat => "invalid format"
  | .invalidAuthority => "invalid authority"
  | .schemeTooLong => "scheme too long"

/-! ### Bytes -/

/-- Whether a byte is one of some ASCII characters. -/
def isOneOf (characters : String) (byte : UInt8) : Bool :=
  (asciiBytes characters).contains byte

/-- An ASCII letter or digit. -/
def isAlphanumeric (byte : UInt8) : Bool :=
  let code := byte.toNat
  (0x30 ≤ code && code ≤ 0x39) || (0x41 ≤ code && code ≤ 0x5A) || (0x61 ≤ code && code ≤ 0x7A)

/-- The byte before a query. -/
def queryMark : UInt8 := ascii '?'

/-- The byte before a fragment. -/
def fragmentMark : UInt8 := ascii '#'

/-- The byte that begins a path and stands between its segments. -/
def slash : UInt8 := ascii '/'

/-- A byte that may stand in a path. -/
def isPathByte (byte : UInt8) : Bool :=
  let code := byte.toNat
  code = 0x21 || (0x24 ≤ code && code ≤ 0x3B) || code = 0x3D || (0x40 ≤ code && code ≤ 0x5F) ||
    (0x61 ≤ code && code ≤ 0x7A) || isOneOf "|~\"\x7b\x7d" byte || 0x80 ≤ code

/-- A byte that may stand in a query. -/
def isQueryByte (byte : UInt8) : Bool :=
  let code := byte.toNat
  code = 0x21 || (0x24 ≤ code && code ≤ 0x3B) || code = 0x3D || (0x3F ≤ code && code ≤ 0x7E) ||
    0x80 ≤ code

/-! ### Paths and queries -/

/-- The query in what follows a path, if that is well written. -/
def query? : Bytes → Option Bytes
  | [] => some []
  | byte :: rest =>
    if byte = queryMark then
      let query := rest.takeWhile (· ≠ fragmentMark)
      if query.all isQueryByte then some query else none
    else some []

/-- A byte behind which a path goes on. -/
def continuesPath (byte : UInt8) : Bool :=
  byte ≠ queryMark && byte ≠ fragmentMark

/-- Reads a path with what follows it. -/
def ofPath (bytes : Bytes) : Except Fault Target :=
  let path := bytes.takeWhile continuesPath
  match (if path.all isPathByte then query? (bytes.dropWhile continuesPath) else none) with
  | some query => .ok ⟨path, query⟩
  | none => .error .invalidCharacter

/-! ### Authorities -/

/-- What has been seen of an authority. Colons and percent signs are forgotten where they turn out
to have been part of a user's name or of a bracketed host. -/
structure Seen where
  colons : Nat
  isOpen : Bool
  isClosed : Bool
  hasPercent : Bool
  endsUser : Bool

/-- Nothing of an authority. -/
def Seen.nothing : Seen := ⟨0, false, false, false, false⟩

/-- The most colons in a row of groups. -/
def mostColons : Nat := 8

/-- A byte that may stand in an authority, those apart that are counted. -/
def isAuthorityByte (byte : UInt8) : Bool :=
  isAlphanumeric byte || isOneOf "!$&'()*+,-.;=_~" byte

/-- What has been seen after one more byte. -/
def Seen.step (seen : Seen) (byte : UInt8) : Except Fault Seen :=
  if byte = ascii ':' then
    if mostColons ≤ seen.colons then .error .invalidAuthority
    else .ok { seen with colons := seen.colons + 1, endsUser := false }
  else if byte = ascii '[' then
    if seen.hasPercent || seen.isOpen then .error .invalidAuthority
    else .ok { seen with isOpen := true, endsUser := false }
  else if byte = ascii ']' then
    if !seen.isOpen || seen.isClosed then .error .invalidAuthority
    else .ok ⟨0, true, true, false, false⟩
  else if byte = ascii '@' then
    .ok { seen with colons := 0, hasPercent := false, endsUser := true }
  else if byte = ascii '%' then .ok { seen with hasPercent := true, endsUser := false }
  else if isAuthorityByte byte then .ok { seen with endsUser := false }
  else .error .invalidCharacter

/-- Whether an authority may end here. -/
def Seen.isComplete (seen : Seen) : Bool :=
  seen.isOpen = seen.isClosed && seen.colons ≤ 1 && !seen.endsUser && !seen.hasPercent

/-- A byte of an authority. -/
def continuesAuthority (byte : UInt8) : Bool :=
  byte ≠ slash && continuesPath byte

/-- Checks an authority. -/
def checkAuthority (authority : Bytes) : Except Fault Unit :=
  match authority.foldlM Seen.step Seen.nothing with
  | .error fault => .error fault
  | .ok seen => if seen.isComplete then .ok () else .error .invalidAuthority

/-! ### Schemes -/

/-- A byte of a scheme. -/
def isSchemeByte (byte : UInt8) : Bool :=
  isAlphanumeric byte || isOneOf "+-.~" byte

/-- The longest scheme. -/
def longestScheme : Nat := 64

/-- The bytes behind a scheme and its sign, if there is one. The scheme may be empty, but not if
nothing follows the sign either. -/
def behindScheme? (bytes : Bytes) : Option (Except Fault Bytes) :=
  let sign := asciiBytes "://"
  let rest := bytes.dropWhile isSchemeByte
  if sign.length < bytes.length && sign.isPrefixOf rest then
    if longestScheme < (bytes.takeWhile isSchemeByte).length then some (.error .schemeTooLong)
    else some (.ok (rest.drop sign.length))
  else none

/-! ### Targets -/

/-- Reads an authority and what follows it. A path that is left out is the root. -/
def ofAuthority (bytes : Bytes) : Except Fault Target :=
  if bytes.isEmpty then .error .empty
  else
    let authority := bytes.takeWhile continuesAuthority
    match checkAuthority authority with
    | .error fault => .error fault
    | .ok _ =>
      if authority.isEmpty then .error .invalidFormat
      else
        match ofPath (bytes.dropWhile continuesAuthority) with
        | .error fault => .error fault
        | .ok target =>
          .ok (if target.path.isEmpty then { target with path := [slash] } else target)

/-- Reads an authority that stands alone. -/
def ofAuthorityAlone (bytes : Bytes) : Except Fault Target :=
  match checkAuthority (bytes.takeWhile continuesAuthority) with
  | .error fault => .error fault
  | .ok _ =>
    if bytes.all continuesAuthority then .ok ⟨[], []⟩
    else if bytes.length = 1 then .error .invalidCharacter
    else .error .invalidFormat

/-- The target that is everything. -/
def asterisk : Bytes := asciiBytes "*"

/-- The greatest length of a target. -/
def greatestLength : Nat := 65534

/-- The target that some bytes spell. -/
def parse (bytes : Bytes) : Except Fault Target :=
  if greatestLength < bytes.length then .error .tooLong
  else if bytes.isEmpty then .error .empty
  else if bytes = asterisk then .ok ⟨asterisk, []⟩
  else if bytes.head? = some slash then ofPath bytes
  else
    match behindScheme? bytes with
    | some (.error fault) => .error fault
    | some (.ok rest) => ofAuthority rest
    | none => ofAuthorityAlone bytes

end Target

end TokenService.Http
