/-!
# Numbers of 53 significant bits

A magnitude is an integer below `2 ^ 53` times a power of two no lower than `2 ^ -1074`. `ofRatio?`
rounds any fraction to the nearest magnitude, a tie to the even integer, and has no result above the
greatest one. All arithmetic is exact integer arithmetic followed by one such rounding.

`ofDecimal?` is the value of a decimal with a separate exponent. The significand is rounded first
and then multiplied or divided by a rounded power of ten, so its answer is not always the magnitude
nearest to the decimal.
-/

set_option autoImplicit false
set_option relaxedAutoImplicit false

namespace TokenService.Decimal

/-- The magnitude `significand * 2 ^ exponent`. -/
structure Binary64 where
  significand : Nat
  exponent : Int
deriving DecidableEq, Repr

namespace Binary64

/-- The power of two of the least magnitudes. -/
def leastExponent : Int := -1074

/-- The power of two of the greatest magnitudes. -/
def greatestExponent : Int := 971

/-- The value of the leading bit of a significand, which is `2 ^ 52`. -/
def leadingValue : Nat := 4503599627370496

/-- Nothing at all. -/
def zero : Binary64 := ⟨0, leastExponent⟩

/-- A fraction times a power of two, as a fraction. -/
def shifted (numerator denominator : Nat) (shift : Int) : Nat × Nat :=
  (numerator * Nat.pow 2 shift.toNat, denominator * Nat.pow 2 (-shift).toNat)

/-- The quotient rounded to the nearest integer, a tie to the even one. -/
def nearest (numerator denominator : Nat) : Nat :=
  let quotient := numerator / denominator
  let twice := 2 * (numerator % denominator)
  if twice > denominator || (twice = denominator && quotient % 2 = 1) then quotient + 1
  else quotient

/-- The power of two of the leading bit of a fraction that is not zero. -/
def leadingBit (numerator denominator : Nat) : Int :=
  let guess : Int := (numerator.log2 : Int) - denominator.log2
  let (lower, upper) := shifted numerator denominator (-guess)
  if upper ≤ lower then guess else guess - 1

/-- The magnitude nearest to a fraction times a power of two, if it is not too large. -/
def ofRatio? (numerator denominator : Nat) (shift : Int) : Option Binary64 :=
  if numerator = 0 then some zero
  else
    let exponent := max (leadingBit numerator denominator + shift - 52) leastExponent
    let (above, below) := shifted numerator denominator (shift - exponent)
    let rounded := nearest above below
    let result : Binary64 :=
      if rounded = 2 * leadingValue then ⟨leadingValue, exponent + 1⟩ else ⟨rounded, exponent⟩
    if greatestExponent < result.exponent then none else some result

/-- The magnitude nearest to a natural number. -/
def ofNat? (value : Nat) : Option Binary64 :=
  ofRatio? value 1 0

/-- The product, rounded. -/
def multiply? (left right : Binary64) : Option Binary64 :=
  ofRatio? (left.significand * right.significand) 1 (left.exponent + right.exponent)

/-- The quotient, rounded. -/
def divide? (left right : Binary64) : Option Binary64 :=
  ofRatio? left.significand right.significand (left.exponent - right.exponent)

/-- The greatest power of ten that is a magnitude after rounding. -/
def greatestTen : Nat := 308

/-- Multiplies by a power of ten, in one step where that power is a magnitude and otherwise by as
many divisions as it takes. -/
def scaleByTen? (value : Binary64) (exponent : Int) : Option Binary64 :=
  if exponent.natAbs ≤ greatestTen then do
    let power ← ofNat? (Nat.pow 10 exponent.natAbs)
    if 0 ≤ exponent then value.multiply? power else value.divide? power
  else if value.significand = 0 then some value
  else if 0 ≤ exponent then none
  else do
    let power ← ofNat? (Nat.pow 10 greatestTen)
    let smaller ← value.divide? power
    scaleByTen? smaller (exponent + greatestTen)
termination_by exponent.natAbs
decreasing_by
  simp only [greatestTen] at *
  omega

/-- The value of `significand * 10 ^ exponent`, unless it is too large. -/
def ofDecimal? (significand : Nat) (exponent : Int) : Option Binary64 := do
  let start ← ofNat? significand
  start.scaleByTen? exponent

end Binary64

end TokenService.Decimal
