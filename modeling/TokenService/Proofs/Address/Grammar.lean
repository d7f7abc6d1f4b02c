import Mathlib.Data.List.Forall2
import Mathlib.Tactic.MkIffOfInductiveProp
import TokenService.Address.Parser

/-!
# The grammar of addresses

Which texts spell an address (`Address.Spells`), whatever a reader makes of them. A number is
spelled by one or more digits of its base, with any zeros in front. Octets have at most three digits
and no such zeros, groups at most four. Eight groups are spelled one after another, or with a gap
for one or more zero groups between those in front of it and those behind it. In either way four
octets may stand for the last two of them.
-/

set_option autoImplicit false
set_option relaxedAutoImplicit false

namespace TokenService

/-! ### Numerals -/

namespace Numeral

/-- Characters that are digits of a base, and what they are worth. -/
def AreDigits (base : Nat) : List Char → List Nat → Prop :=
  List.Forall₂ fun character digit ↦ digit? base character = some digit

/-- The characters that spell a number: one digit or more. -/
def Spells (base number : Nat) (characters : List Char) : Prop :=
  ∃ digits, AreDigits base characters digits ∧ digits ≠ [] ∧ value base digits = number

end Numeral

/-! ### Four octets -/

namespace Ipv4

/-- The characters that spell an octet. -/
@[mk_iff]
structure SpellsOctet (octet : UInt8) (characters : List Char) : Prop where
  number : Numeral.Spells 10 octet.toNat characters
  short : characters.length ≤ 3
  plain : characters.head? = some '0' → characters = ['0']

/-- The characters that spell a host: its octets with points between them. -/
inductive Spells (host : Ipv4) : List Char → Prop
  | intro {first second third fourth : List Char} (hfirst : SpellsOctet host.first first)
      (hsecond : SpellsOctet host.second second) (hthird : SpellsOctet host.third third)
      (hfourth : SpellsOctet host.fourth fourth) :
      Spells host (first ++ '.' :: (second ++ '.' :: (third ++ '.' :: fourth)))

end Ipv4

/-! ### Eight groups -/

namespace Ipv6

/-- The characters that spell a group. -/
@[mk_iff]
structure SpellsGroup (group : UInt16) (characters : List Char) : Prop where
  number : Numeral.Spells 16 group.toNat characters
  short : characters.length ≤ 4

/-- The colon in front of a group, which the first group does not have. -/
def colon (first : Bool) : List Char :=
  if first then [] else [':']

/-- The characters that spell groups, with octets in place of the last two or not. -/
inductive SpellsGroups : (first octets : Bool) → List UInt16 → List Char → Prop
  | nil {first : Bool} : SpellsGroups first false [] []
  | octets {first : Bool} {host : Ipv4} {characters : List Char} (hhost : host.Spells characters) :
      SpellsGroups first true host.groups (colon first ++ characters)
  | cons {first octets : Bool} {group : UInt16} {groups : List UInt16}
      {characters others : List Char} (hgroup : SpellsGroup group characters)
      (hothers : SpellsGroups false octets groups others) :
      SpellsGroups first octets (group :: groups) (colon first ++ (characters ++ others))

/-- The characters that spell a host: all of its groups, or those around a gap. -/
inductive Spells (host : Ipv6) : List Char → Prop
  | full {octets : Bool} {characters : List Char}
      (hgroups : SpellsGroups true octets host.groups characters) : Spells host characters
  | gap {octets : Bool} {front back : List UInt16} {before behind : List Char} {length : Nat}
      (hgroups : host.groups = front ++ (List.replicate (length + 1) 0 ++ back))
      (hfront : SpellsGroups true false front before)
      (hback : SpellsGroups true octets back behind) :
      Spells host (before ++ ':' :: ':' :: behind)

end Ipv6

/-! ### Addresses -/

namespace Address

/-- The characters that spell a scope, which is zero where none is named. -/
inductive SpellsScope : UInt32 → List Char → Prop
  | none : SpellsScope 0 []
  | named {scope : UInt32} {characters : List Char}
      (hscope : Numeral.Spells 10 scope.toNat characters) : SpellsScope scope ('%' :: characters)

/-- The characters that spell an address: its host, its scope and its port. -/
inductive Spells : Address → List Char → Prop
  | v4 {host : Ipv4} {port : UInt16} {place door : List Char} (hhost : host.Spells place)
      (hport : Numeral.Spells 10 port.toNat door) : Spells (.v4 host port) (place ++ ':' :: door)
  | v6 {host : Ipv6} {scope : UInt32} {port : UInt16} {place link door : List Char}
      (hhost : host.Spells place) (hscope : SpellsScope scope link)
      (hport : Numeral.Spells 10 port.toNat door) :
      Spells (.v6 host scope port) ('[' :: (place ++ (link ++ ']' :: ':' :: door)))

end Address

end TokenService
