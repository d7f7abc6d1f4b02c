/-!
# Network addresses

Where a service listens: a host and a port. A host is four octets or eight groups of sixteen bits;
the latter may be narrowed to one of the machine's links by a scope.
-/

set_option autoImplicit false
set_option relaxedAutoImplicit false

namespace TokenService

/-- A host of four octets. -/
structure Ipv4 where
  first : UInt8
  second : UInt8
  third : UInt8
  fourth : UInt8
deriving DecidableEq, Repr

/-- A host of eight groups. -/
structure Ipv6 where
  groups : List UInt16
  length_groups : groups.length = 8
deriving DecidableEq, Repr

/-- A host and a port. -/
inductive Address
  | v4 (host : Ipv4) (port : UInt16)
  | v6 (host : Ipv6) (scope : UInt32) (port : UInt16)
deriving DecidableEq, Repr

namespace Ipv4

/-- The host as two groups. -/
def groups (host : Ipv4) : List UInt16 :=
  [UInt16.ofNat (host.first.toNat * 256 + host.second.toNat),
    UInt16.ofNat (host.third.toNat * 256 + host.fourth.toNat)]

/-- The host of two groups. -/
def ofGroups (high low : UInt16) : Ipv4 :=
  ⟨UInt8.ofNat (high.toNat / 256), UInt8.ofNat (high.toNat % 256),
    UInt8.ofNat (low.toNat / 256), UInt8.ofNat (low.toNat % 256)⟩

end Ipv4

namespace Ipv6

/-- The host of eight groups. -/
def ofGroups? (groups : List UInt16) : Option Ipv6 :=
  if length_groups : groups.length = 8 then some ⟨groups, length_groups⟩ else none

end Ipv6

end TokenService
