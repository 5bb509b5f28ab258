import LiveTable.Number.Digits
import LiveTable.Number.Rounding

/-!
# The fewest digits that read back

A positive finite `Binary64` is the nearest one to every real number in a small
interval around it.  `Decimal.shortest` looks for a decimal in that interval on
ever finer decimal grids, one digit, two digits, and so on: on each grid only the
two neighbours of the exact value can be nearest, and the first grid with a
neighbour in the interval decides.  Where both neighbours are in the interval the
nearer is taken; a tie rule settles the case of two equally near.

All comparisons are between natural numbers.
-/

set_option autoImplicit false

namespace LiveTable

/-- The number `coefficient · 10 ^ exponent`. -/
structure Decimal where
  coefficient : Nat
  exponent : Int
deriving Repr, DecidableEq

namespace Decimal

/-- The numerator of `10 ^ exponent` as a fraction in lowest terms. -/
def powerNumerator (exponent : Int) : Nat :=
  tenPow exponent.toNat

/-- The denominator of `10 ^ exponent` as a fraction in lowest terms. -/
def powerDenominator (exponent : Int) : Nat :=
  tenPow (-exponent).toNat

/-- The decimal without the zeros at the end of its coefficient. -/
def trim (d : Decimal) : Decimal :=
  if h : d.coefficient ≠ 0 ∧ d.coefficient % 10 = 0 then
    trim ⟨d.coefficient / 10, d.exponent + 1⟩
  else d
termination_by d.coefficient
decreasing_by omega

/--
The position of the decimal point of `numerator / denominator`: the power of ten
just above the number, so that the number lies in `[10 ^ (p - 1), 10 ^ p)`.
-/
def pointPosition (numerator denominator : Nat) : Int :=
  if denominator ≤ numerator then Digits.count (numerator / denominator)
  else 1 - (Digits.count ((denominator - 1) / numerator) : Int)

end Decimal

namespace Binary64

/-- A quarter of the unit: the ends of every rounding interval are whole quarters. -/
def quarters (x : Binary64) : Nat :=
  4 * x.magnitude

/-- The upper end of the reals that round to `x`, in quarter units. -/
def upperQuarters (x : Binary64) : Nat :=
  x.quarters + 2 * twoPow x.shift

/--
The lower end of the reals that round to `x`, in quarter units.  Just above a power
of two the numbers below lie twice as close.
-/
def lowerQuarters (x : Binary64) : Nat :=
  if x.fractionBits = 0 ∧ 1 < x.exponentBits then x.quarters - twoPow x.shift
  else x.quarters - 2 * twoPow x.shift

/--
Whether a positive decimal rounds to the positive number `x`.  The ends of the
interval belong to it iff the significand is even, because ties go to even.
-/
def nearestTo (x : Binary64) (d : Decimal) : Bool :=
  let scaled := d.coefficient * Decimal.powerNumerator d.exponent * (4 * unitsPerOne)
  let lower := x.lowerQuarters * Decimal.powerDenominator d.exponent
  let upper := x.upperQuarters * Decimal.powerDenominator d.exponent
  if x.significand % 2 = 0 then lower ≤ scaled && scaled ≤ upper
  else lower < scaled && scaled < upper

end Binary64

namespace Decimal

/-- The decimals next to the magnitude of `x`, below and above, on the grid of `10 ^ exponent`. -/
def below (x : Binary64) (exponent : Int) : Decimal :=
  ⟨x.magnitude * powerDenominator exponent / (Binary64.unitsPerOne * powerNumerator exponent),
    exponent⟩

/-- The first decimal on the grid of `10 ^ exponent` that is greater than the magnitude of `x`. -/
def above (x : Binary64) (exponent : Int) : Decimal :=
  ⟨(below x exponent).coefficient + 1, exponent⟩

/-- Of the two neighbours of `x` on a grid, the nearer. -/
def nearer (tie : TieRule) (x : Binary64) (exponent : Int) : Decimal :=
  ⟨tie.divide (x.magnitude * powerDenominator exponent)
      (Binary64.unitsPerOne * powerNumerator exponent), exponent⟩

/-- The neighbour of `x` on a grid that reads back, the nearer if both do. -/
def onGrid? (tie : TieRule) (x : Binary64) (exponent : Int) : Option Decimal :=
  match x.nearestTo (below x exponent), x.nearestTo (above x exponent) with
  | true, true => some (nearer tie x exponent)
  | true, false => some (below x exponent)
  | false, true => some (above x exponent)
  | false, false => none

/-- The most digits that a number ever needs to read back. -/
def enoughDigits : Nat :=
  17

/-- The decimal with the fewest digits that reads back as the positive finite number `x`. -/
def shortest (tie : TieRule) (x : Binary64) : Decimal :=
  let point := pointPosition x.magnitude Binary64.unitsPerOne
  let found? := (List.range enoughDigits).findSome? fun (fewer : Nat) =>
    onGrid? tie x (point - (fewer + 1 : Nat))
  (found?.getD (nearer tie x (point - enoughDigits))).trim

/-- The digits of the coefficient. -/
def digits (d : Decimal) : List Char :=
  Digits.ofNat d.coefficient

/-- The position of the decimal point, counted from in front of the first digit. -/
def point (d : Decimal) : Int :=
  d.digits.length + d.exponent

end Decimal

end LiveTable
