import TokenService.Address.Basic
import TokenService.Decimal.Integer

/-!
# Writing addresses

Each address has one written form. Groups are in lower case and without leading zeros, and `::`
stands for the first of the longest runs of two or more zero groups. A host of four octets that is
mapped into groups shows its octets. A scope of zero is left out.
-/

set_option autoImplicit false
set_option relaxedAutoImplicit false

namespace TokenService

/-! ### Four octets -/

namespace Ipv4

/-- An octet. -/
def renderOctet (octet : UInt8) : List Char :=
  Decimal.Integer.digits octet.toNat

/-- The octets of a host with points between them. -/
def render (host : Ipv4) : List Char :=
  renderOctet host.first ++ '.' :: renderOctet host.second ++ '.' :: renderOctet host.third ++
    '.' :: renderOctet host.fourth

end Ipv4

/-! ### Eight groups -/

namespace Ipv6

/-- A group. -/
def renderGroup (group : UInt16) : List Char :=
  Nat.toDigits 16 group.toNat

/-- Groups with colons between them. -/
def renderGroups : List UInt16 → List Char
  | [] => []
  | [group] => renderGroup group
  | group :: groups => renderGroup group ++ ':' :: renderGroups groups

/-- The number of zeros at the front. -/
def leadingZeros (groups : List UInt16) : Nat :=
  (groups.takeWhile (· = 0)).length

/-- The place and the length of the first of the longest runs of zeros. -/
def longestZeros : List UInt16 → Nat × Nat
  | [] => (0, 0)
  | group :: groups =>
    let here := leadingZeros (group :: groups)
    let (start, length) := longestZeros groups
    if length ≤ here then (0, here) else (start + 1, length)

/-- The octets that a host stands for, if they are mapped into its groups. -/
def mapped? (host : Ipv6) : Option Ipv4 :=
  match host.groups with
  | [0, 0, 0, 0, 0, 0xFFFF, high, low] => some (.ofGroups high low)
  | _ => none

/-- The groups of a host, the longest run of zeros left out. -/
def renderCompressed (host : Ipv6) : List Char :=
  let (start, length) := longestZeros host.groups
  if length ≤ 1 then renderGroups host.groups
  else
    renderGroups (host.groups.take start) ++ ':' :: ':' ::
      renderGroups (host.groups.drop (start + length))

/-- A host. -/
def render (host : Ipv6) : List Char :=
  match host.mapped? with
  | some octets => "::ffff:".toList ++ octets.render
  | none => host.renderCompressed

end Ipv6

/-! ### Addresses -/

namespace Address

/-- A port behind its colon. -/
def renderPort (port : UInt16) : List Char :=
  ':' :: Decimal.Integer.digits port.toNat

/-- A scope behind its sign. -/
def renderScope (scope : UInt32) : List Char :=
  if scope = 0 then [] else '%' :: Decimal.Integer.digits scope.toNat

/-- The characters of the written form. -/
def render : Address → List Char
  | .v4 host port => host.render ++ renderPort port
  | .v6 host scope port => '[' :: host.render ++ renderScope scope ++ ']' :: renderPort port

/-- The written form. -/
def text (address : Address) : String :=
  String.ofList address.render

end Address

end TokenService
