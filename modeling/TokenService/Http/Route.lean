import TokenService.Http.Target

/-!
# Routes

The places that the service knows, told by the path as it is written: the index, and one place for
each user, whose name is the last segment.
-/

set_option autoImplicit false
set_option relaxedAutoImplicit false

namespace TokenService.Http

/-- A place that the service knows. -/
inductive Route
  | index
  | token (segment : Bytes)
deriving DecidableEq, Repr

namespace Route

/-- What stands before the segment of a user. -/
def tokenPath : Bytes := asciiBytes "/token/"

/-- A segment that is not empty. -/
def isSegment (bytes : Bytes) : Bool :=
  !bytes.isEmpty && !bytes.contains Target.slash

/-- The place of a path. -/
def ofPath? (path : Bytes) : Option Route :=
  if path = [Target.slash] then some .index
  else if tokenPath.isPrefixOf path && isSegment (path.drop tokenPath.length) then
    some (.token (path.drop tokenPath.length))
  else none

end Route

end TokenService.Http
