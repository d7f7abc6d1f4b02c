import TokenService.Address.Basic
import TokenService.Text.Hex

/-!
# Reading addresses

`Address.parse?` accepts the written form of an address and its other spellings: groups in either
case and with leading zeros, `::` for any run of zero groups, octets in place of the last two
groups, leading zeros in ports and scopes. Octets have no leading zeros. Nothing may stand around an
address.

Each `take?` takes its part from the front and gives the characters left.
-/

set_option autoImplicit false
set_option relaxedAutoImplicit false

namespace TokenService

/-! ### Numerals -/

namespace Numeral

/-- The value of a digit of a base up to sixteen. -/
def digit? (base : Nat) (character : Char) : Option Nat :=
  (Text.Hex.value? character.toNat).filter (· < base)

/-- The digits at the front, and the characters after them. -/
def takeDigits (base : Nat) : List Char → List Nat × List Char
  | [] => ([], [])
  | character :: rest =>
    match digit? base character with
    | none => ([], character :: rest)
    | some digit =>
      let (digits, others) := takeDigits base rest
      (digit :: digits, others)

/-- The number that digits stand for. -/
def value (base : Nat) (digits : List Nat) : Nat :=
  digits.foldl (fun number digit ↦ number * base + digit) 0

/-- Takes a number that is below a bound and whose digits are accepted. -/
def take? (base bound : Nat) (accept : List Nat → Bool) (characters : List Char) :
    Option (Nat × List Char) :=
  let (digits, rest) := takeDigits base characters
  if digits.isEmpty || !accept digits || bound ≤ value base digits then none
  else some (value base digits, rest)

end Numeral

/-- Takes a given character. -/
def takeChar? (wanted : Char) : List Char → Option (List Char)
  | [] => none
  | character :: rest => if character = wanted then some rest else none

/-! ### Four octets -/

namespace Ipv4

/-- Up to three digits, without a leading zero. -/
def isOctet (digits : List Nat) : Bool :=
  digits.length ≤ 3 && (digits.length = 1 || digits.head? ≠ some 0)

/-- Takes an octet. -/
def takeOctet? (characters : List Char) : Option (UInt8 × List Char) :=
  (Numeral.take? 10 256 isOctet characters).map fun (value, rest) ↦ (UInt8.ofNat value, rest)

/-- Takes a host. -/
def take? (characters : List Char) : Option (Ipv4 × List Char) := do
  let (first, rest) ← takeOctet? characters
  let (second, rest) ← takeOctet? (← takeChar? '.' rest)
  let (third, rest) ← takeOctet? (← takeChar? '.' rest)
  let (fourth, rest) ← takeOctet? (← takeChar? '.' rest)
  some (⟨first, second, third, fourth⟩, rest)

end Ipv4

/-! ### Eight groups -/

namespace Ipv6

/-- Takes a group of up to four digits. -/
def takeGroup? (characters : List Char) : Option (UInt16 × List Char) :=
  (Numeral.take? 16 65536 (·.length ≤ 4) characters).map
    fun (value, rest) ↦ (UInt16.ofNat value, rest)

/-- The characters behind the colon between groups, which the first group does not have. -/
def behindColon? (first : Bool) (characters : List Char) : Option (List Char) :=
  if first then some characters else takeChar? ':' characters

/-- Groups taken from the front, whether the last two were octets, and the characters left. -/
structure Groups where
  values : List UInt16
  hasOctets : Bool
  rest : List Char

/-- Takes octets in place of two groups. -/
def takeOctets? (first : Bool) (characters : List Char) : Option (Ipv4 × List Char) :=
  (behindColon? first characters).bind Ipv4.take?

/-- Takes as many groups as there are, up to a limit. Octets take the place of two groups. -/
def takeGroups : (limit : Nat) → (first : Bool) → List Char → Groups
  | 0, _, characters => ⟨[], false, characters⟩
  | limit + 1, first, characters =>
    match (if limit = 0 then none else takeOctets? first characters) with
    | some (host, rest) => ⟨host.groups, true, rest⟩
    | none =>
      match (behindColon? first characters).bind takeGroup? with
      | none => ⟨[], false, characters⟩
      | some (group, rest) =>
        let groups := takeGroups limit false rest
        { groups with values := group :: groups.values }

/-- Takes what follows the groups in front of `::`, and fills the gap with zeros. -/
def takeBehindGap? (front : List UInt16) (characters : List Char) : Option (Ipv6 × List Char) := do
  let rest ← takeChar? ':' characters
  let rest ← takeChar? ':' rest
  let back := takeGroups (8 - (front.length + 1)) true rest
  let gap := List.replicate (8 - front.length - back.values.length) 0
  let host ← ofGroups? (front ++ gap ++ back.values)
  some (host, back.rest)

/-- Takes a host. -/
def take? (characters : List Char) : Option (Ipv6 × List Char) :=
  let front := takeGroups 8 true characters
  match ofGroups? front.values with
  | some host => some (host, front.rest)
  | none => if front.hasOctets then none else takeBehindGap? front.values front.rest

end Ipv6

/-! ### Addresses -/

namespace Address

/-- Takes a port behind its colon. -/
def takePort? (characters : List Char) : Option (UInt16 × List Char) := do
  let (port, rest) ← Numeral.take? 10 65536 (fun _ ↦ true) (← takeChar? ':' characters)
  some (UInt16.ofNat port, rest)

/-- Takes a scope behind its sign. -/
def takeScope? (characters : List Char) : Option (UInt32 × List Char) := do
  let (scope, rest) ← Numeral.take? 10 4294967296 (fun _ ↦ true) (← takeChar? '%' characters)
  some (UInt32.ofNat scope, rest)

/-- Takes an address with four octets. -/
def takeV4? (characters : List Char) : Option (Address × List Char) := do
  let (host, rest) ← Ipv4.take? characters
  let (port, rest) ← takePort? rest
  some (.v4 host port, rest)

/-- Takes an address with eight groups. -/
def takeV6? (characters : List Char) : Option (Address × List Char) := do
  let (host, rest) ← Ipv6.take? (← takeChar? '[' characters)
  let (scope, rest) := (takeScope? rest).getD (0, rest)
  let (port, rest) ← takePort? (← takeChar? ']' rest)
  some (.v6 host scope port, rest)

/-- The address that a text spells. -/
def parse? (text : String) : Option Address :=
  match (takeV4? text.toList).or (takeV6? text.toList) with
  | some (address, []) => some address
  | _ => none

end Address

end TokenService
