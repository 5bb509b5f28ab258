import LiveTable.Number.Binary64

/-!
# Rounding to binary floating point

Every arithmetic result is the exact rational result rounded to the nearest
`Binary64`, a tie going to the even significand, a magnitude too large to
infinity.  `ofRatio` is that rounding; the operations compute the exact ratio and
round once.
-/

set_option autoImplicit false

namespace LiveTable

/-- The direction an exact half goes when a quotient is rounded. -/
inductive TieRule where
  /-- To the neighbour that is even. -/
  | toEven
  /-- Away from zero. -/
  | up
deriving Repr, DecidableEq

/-- The quotient rounded to the nearest integer. -/
def TieRule.divide (tie : TieRule) (numerator denominator : Nat) : Nat :=
  let quotient := numerator / denominator
  let twice := 2 * (numerator % denominator)
  if twice < denominator then quotient
  else if denominator < twice then quotient + 1
  else
    match tie with
    | .toEven => quotient + quotient % 2
    | .up => quotient + 1

namespace Binary64

/-- The power of two, in units, by which a significand for `wholeUnits` is scaled. -/
def shiftFor (wholeUnits : Nat) : Nat :=
  Nat.log2 wholeUnits - 52

/--
The lower 63 bits of the number nearest to `numerator / denominator`.

A significand of `2⁵³`, reached by rounding up, carries into the exponent by
itself, because the exponent bits lie directly above the fraction.
-/
def nearestBits (numerator denominator : Nat) : Nat :=
  let units := numerator * unitsPerOne
  let shift := shiftFor (units / denominator)
  min infinityBits (shift * twoPow 52 + TieRule.toEven.divide units (denominator * twoPow shift))

/-- The number nearest to a ratio with a sign. -/
def ofRatio (negative : Bool) (numerator denominator : Nat) : Binary64 :=
  ofSignBits negative (nearestBits numerator denominator)

/-- The number nearest to an integer. -/
def ofInt (n : Int) : Binary64 :=
  ofRatio (n < 0) n.natAbs 1

/-- The number nearest to an integer number of units; zero takes the given sign. -/
def ofUnits (zeroSign : Bool) (total : Int) : Binary64 :=
  if total = 0 then zero zeroSign
  else ofRatio (total < 0) total.natAbs unitsPerOne

/-- The sum. -/
def add (a b : Binary64) : Binary64 :=
  if a.isNaN || b.isNaN then nan
  else if a.isInfinite then
    if b.isInfinite && a.isNegative != b.isNegative then nan else a
  else if b.isInfinite then b
  else ofUnits (a.isNegative && b.isNegative) (a.units + b.units)

/-- The difference. -/
def sub (a b : Binary64) : Binary64 :=
  if b.isNaN then nan else a.add b.neg

/-- The product. -/
def mul (a b : Binary64) : Binary64 :=
  let negative := a.isNegative != b.isNegative
  if a.isNaN || b.isNaN then nan
  else if a.isInfinite || b.isInfinite then
    if a.isZero || b.isZero then nan else infinity negative
  else ofRatio negative (a.magnitude * b.magnitude) (unitsPerOne * unitsPerOne)

/-- The quotient. -/
def div (a b : Binary64) : Binary64 :=
  let negative := a.isNegative != b.isNegative
  if a.isNaN || b.isNaN then nan
  else if a.isInfinite then
    if b.isInfinite then nan else infinity negative
  else if b.isInfinite then zero negative
  else if b.isZero then
    if a.isZero then nan else infinity negative
  else ofRatio negative a.magnitude b.magnitude

end Binary64

end LiveTable
