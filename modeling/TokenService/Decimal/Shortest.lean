import TokenService.Decimal.Binary64
import TokenService.Decimal.Integer

/-!
# The shortest decimal that reads back

Every decimal closer to a magnitude than to its neighbours reads back as that magnitude; the two
midpoints count as closer exactly when the significand is even. `shortest` has the fewest digits
among those decimals and, of the decimals with as few digits, is nearest to the magnitude. On a grid
of decimals with one number of digits only the two grid points around the magnitude can do, so they
are the only ones tried.

`render` writes that decimal: with a point as long as the point lies within the first sixteen digits
or up to four zeros follow it before the first digit, with an exponent otherwise.
-/

set_option autoImplicit false
set_option relaxedAutoImplicit false

namespace TokenService.Decimal.Shortest

/-- The decimal `digits * 10 ^ exponent`. -/
structure Scaled where
  digits : Nat
  exponent : Int
deriving DecidableEq, Repr

/-! ### Finding the digits -/

/-- The magnitudes between which a decimal reads back, in quarters of the last bit. -/
structure Interval where
  low : Nat
  middle : Nat
  high : Nat
  closed : Bool

/-- The interval of a magnitude. Below a power of two its neighbour is only half as far away. -/
def interval (value : Binary64) : Interval :=
  let middle := 4 * value.significand
  let halved := value.significand = Binary64.leadingValue && Binary64.leastExponent < value.exponent
  ⟨if halved then middle - 1 else middle - 2, middle, middle + 2, value.significand % 2 = 0⟩

/-- Whether a point lies in the interval, all four numbers being on one scale. -/
def Interval.contains (range : Interval) (unit point : Nat) : Bool :=
  if range.closed then range.low * unit ≤ point && point ≤ range.high * unit
  else range.low * unit < point && point < range.high * unit

/-- The power of ten of the leading digit of a fraction that is not zero. -/
def leadingDigit (numerator denominator : Nat) : Int :=
  if denominator ≤ numerator then (Integer.digits (numerator / denominator)).length - 1
  else
    match (List.range 330).find? fun zeros ↦ denominator ≤ numerator * Nat.pow 10 (zeros + 1) with
    | some zeros => -(zeros + 1 : Nat)
    | none => 0

/-- The grid point nearest to the magnitude that reads back, if one does, on the grid of multiples
of `10 ^ place`. -/
def onGrid? (value : Binary64) (place : Int) : Option Nat :=
  let range := interval value
  let unit := Nat.pow 2 (value.exponent - 2).toNat * Nat.pow 10 (-place).toNat
  let step := Nat.pow 2 (2 - value.exponent).toNat * Nat.pow 10 place.toNat
  let middle := range.middle * unit
  let below := middle / step
  let above := below + 1
  let lowFits := range.contains unit (below * step)
  let highFits := range.contains unit (above * step)
  if lowFits && highFits then
    let down := middle - below * step
    let up := above * step - middle
    if down < up || (down = up && below % 2 = 0) then some below else some above
  else if lowFits then some below
  else if highFits then some above
  else none

/-- Moves trailing zeros into the exponent. -/
def trimZeros (digits : Nat) (exponent : Int) : Scaled :=
  if digits = 0 then ⟨0, 0⟩
  else if digits % 10 = 0 then trimZeros (digits / 10) (exponent + 1)
  else ⟨digits, exponent⟩
termination_by digits
decreasing_by omega

/-- The shortest decimal that reads back as a magnitude. Seventeen digits always suffice. -/
def shortest (value : Binary64) : Scaled :=
  if value.significand = 0 then ⟨0, 0⟩
  else
    let (above, below) := Binary64.shifted value.significand 1 value.exponent
    let lead := leadingDigit above below
    let found := (List.range 17).findSome? fun (count : Nat) ↦
      let place := lead - count
      (onGrid? value place).map fun digits ↦ trimZeros digits place
    found.getD ⟨0, 0⟩

/-! ### Writing it -/

/-- The greatest number of digits before the point. -/
def digitsBeforePoint : Int := 16

/-- The greatest number of places between the point and the first digit, plus one. -/
def zerosAfterPoint : Int := 5

/-- The text of an exponent, always with its sign. -/
def renderExponent (exponent : Int) : List Char :=
  let sign := if exponent < 0 then '-' else '+'
  'e' :: sign :: Integer.digits exponent.natAbs

/-- The text of a magnitude. -/
def render (value : Binary64) : List Char :=
  let decimal := shortest value
  let digits := Integer.digits decimal.digits
  let point := digits.length + decimal.exponent
  if 0 ≤ decimal.exponent && point ≤ digitsBeforePoint then
    digits ++ List.replicate decimal.exponent.toNat '0' ++ ['.', '0']
  else if 0 < point && point ≤ digitsBeforePoint then
    digits.take point.toNat ++ '.' :: digits.drop point.toNat
  else if -zerosAfterPoint < point && point ≤ 0 then
    '0' :: '.' :: List.replicate (-point).toNat '0' ++ digits
  else
    let tail := digits.drop 1
    digits.take 1 ++ (if tail.isEmpty then [] else '.' :: tail) ++ renderExponent (point - 1)

end TokenService.Decimal.Shortest
