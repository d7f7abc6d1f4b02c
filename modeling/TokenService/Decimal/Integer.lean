/-!
# Integers in decimal

`render` writes an integer with the fewest digits and a minus sign where needed; `parse?` reads an
optional sign and at least one digit, leading zeros allowed. Times and durations are kept within 64
bits with a sign: `Fits` says so, and `add?` and `multiply?` have no result outside those limits.
-/

set_option autoImplicit false
set_option relaxedAutoImplicit false

namespace TokenService.Decimal.Integer

/-! ### Digits -/

/-- The digit of a value below ten. -/
def digit (value : Nat) : Char :=
  Char.ofNat (0x30 + value)

/-- The value of a digit. -/
def digitValue? (character : Char) : Option Nat :=
  if 0x30 ≤ character.toNat ∧ character.toNat ≤ 0x39 then some (character.toNat - 0x30) else none

/-- The digits of a natural number, the highest first and never a leading zero but for zero. -/
def digits (value : Nat) : List Char :=
  if value < 10 then [digit value] else digits (value / 10) ++ [digit (value % 10)]
termination_by value
decreasing_by omega

/-- Appends a digit to a number. -/
def push (value : Nat) (character : Char) : Option Nat :=
  (digitValue? character).map fun last ↦ value * 10 + last

/-- The number that one or more digits stand for. -/
def natural? : List Char → Option Nat
  | [] => none
  | characters => characters.foldlM push 0

/-! ### Signs -/

/-- An integer with the fewest digits. -/
def render : Int → List Char
  | .ofNat value => digits value
  | .negSucc value => '-' :: digits (value + 1)

/-- The text of an integer. -/
def text (value : Int) : String :=
  String.ofList (render value)

/-- The integer that an optional sign and one or more digits stand for. -/
def parse? : List Char → Option Int
  | '+' :: characters => (natural? characters).map Int.ofNat
  | '-' :: characters => (natural? characters).map fun value ↦ -Int.ofNat value
  | characters => (natural? characters).map Int.ofNat

/-! ### Limits of 64 bits -/

/-- The least integer of 64 bits with a sign. -/
def least : Int := -9223372036854775808

/-- The greatest integer of 64 bits with a sign. -/
def greatest : Int := 9223372036854775807

/-- An integer of 64 bits with a sign. -/
def Fits (value : Int) : Prop := least ≤ value ∧ value ≤ greatest

instance (value : Int) : Decidable (Fits value) :=
  inferInstanceAs (Decidable (_ ∧ _))

/-- The value, when it is within the limits. -/
def within? (value : Int) : Option Int :=
  if Fits value then some value else none

/-- A sum within the limits. -/
def add? (left right : Int) : Option Int :=
  within? (left + right)

/-- A product within the limits. -/
def multiply? (left right : Int) : Option Int :=
  within? (left * right)

/-- Reads an integer within the limits. -/
def parseWithin? (characters : List Char) : Option Int :=
  (parse? characters).bind within?

end TokenService.Decimal.Integer
