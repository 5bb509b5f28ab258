import LiveTable.Number.Power

/-!
# Binary floating point numbers of 64 bits

A `Binary64` is its bit pattern: a sign, eleven bits of exponent and 52 bits of
fraction.  Every finite number is a whole multiple of `2⁻¹⁰⁷⁴`, so a number is
read as the integer `units`, its value in that unit.  Everything about order and
arithmetic is said in terms of `units`, exactly; no operation of the machine's
floating point unit is involved.

The bit patterns of the two infinities decode to `± 2²⁰⁹⁸` units, beyond every
finite number, so that among numbers other than NaN comparing `units` is comparing
numbers.
-/

set_option autoImplicit false

namespace LiveTable

/-- A binary floating point number, given by its 64 bits. -/
structure Binary64 where
  bits : UInt64
deriving Repr, DecidableEq, Inhabited

namespace Binary64

/-- The number of units in one: finite numbers are multiples of `2⁻¹⁰⁷⁴`. -/
def unitsPerOne : Nat :=
  twoPow 1074

/-- Whether the sign bit is set. -/
def isNegative (x : Binary64) : Bool :=
  twoPow 63 ≤ x.bits.toNat

/-- The eleven exponent bits. -/
def exponentBits (x : Binary64) : Nat :=
  x.bits.toNat / twoPow 52 % twoPow 11

/-- The 52 fraction bits. -/
def fractionBits (x : Binary64) : Nat :=
  x.bits.toNat % twoPow 52

/-- Whether the pattern stands for no number at all. -/
def isNaN (x : Binary64) : Bool :=
  x.exponentBits = 2047 && x.fractionBits ≠ 0

/-- Whether the pattern stands for one of the two infinities. -/
def isInfinite (x : Binary64) : Bool :=
  x.exponentBits = 2047 && x.fractionBits = 0

/-- Whether the pattern stands for a number. -/
def isFinite (x : Binary64) : Bool :=
  x.exponentBits ≠ 2047

/-- The integer significand: the leading one is implied unless the exponent bits are zero. -/
def significand (x : Binary64) : Nat :=
  if x.exponentBits = 0 then x.fractionBits else twoPow 52 + x.fractionBits

/-- The power of two, in units, that the significand is multiplied with. -/
def shift (x : Binary64) : Nat :=
  x.exponentBits - 1

/-- The absolute value in units of `2⁻¹⁰⁷⁴`. -/
def magnitude (x : Binary64) : Nat :=
  x.significand * twoPow x.shift

/-- The value in units of `2⁻¹⁰⁷⁴`. -/
def units (x : Binary64) : Int :=
  if x.isNegative then -(x.magnitude : Int) else x.magnitude

/-- Whether the number is a zero, of either sign. -/
def isZero (x : Binary64) : Bool :=
  x.magnitude = 0

/-- The pattern written for every NaN. -/
def nan : Binary64 :=
  ⟨0x7ff8000000000000⟩

/-- The bits of infinity, without the sign. -/
def infinityBits : Nat :=
  0x7ff0000000000000

/-- Puts a sign in front of the lower 63 bits. -/
def ofSignBits (negative : Bool) (lower : Nat) : Binary64 :=
  ⟨UInt64.ofNat (if negative then twoPow 63 + lower else lower)⟩

/-- Zero with a sign. -/
def zero (negative : Bool) : Binary64 :=
  ofSignBits negative 0

/-- Infinity with a sign. -/
def infinity (negative : Bool) : Binary64 :=
  ofSignBits negative infinityBits

/-- The number with its sign turned round. -/
def neg (x : Binary64) : Binary64 :=
  ofSignBits (!x.isNegative) (x.bits.toNat % twoPow 63)

/--
The order of floating point numbers.  NaN comes after every number and is equal
to itself; the two zeros are equal.
-/
def order (a b : Binary64) : Ordering :=
  match a.isNaN, b.isNaN with
  | true, true => .eq
  | true, false => .gt
  | false, true => .lt
  | false, false => compare a.units b.units

/-- Equality of numbers: NaN equals NaN, and the two zeros are equal. -/
def same (a b : Binary64) : Bool :=
  a.order b = .eq

/-- The whole part, toward zero, of a finite number. -/
def truncate (x : Binary64) : Int :=
  x.units.tdiv unitsPerOne

/--
The order of a 64-bit integer and a floating point number.

A number outside the integer range is decided by its sign.  Otherwise the integer
is compared with the whole part first and the discarded fraction decides a tie.
-/
def orderInt (a : Int64) (b : Binary64) : Ordering :=
  if b.isNaN then .lt
  else if (twoPow 63 * unitsPerOne : Int) ≤ b.units then .lt
  else if b.units < -(twoPow 63 * unitsPerOne : Int) then .gt
  else
    match compare a.toInt b.truncate with
    | .eq => compare (b.truncate * unitsPerOne) b.units
    | decided => decided

end Binary64

end LiveTable
