import LiveTable.Json.Token

/-!
# Numbers of an interchange text

A number written as an integer is kept as one where it fits; every other number is
floating point.  Its digits are read into a significand of at most 64 bits, digits
beyond that are only counted, and the significand is multiplied with or divided by a
power of ten in floating point arithmetic.  The outcome is the nearest number
whenever the significand and the power are both exact.
-/

set_option autoImplicit false

namespace LiveTable.Json

/-- The integers below this bound are natural numbers of 64 bits. -/
def wordLimit : Nat :=
  twoPow 64

/--
Reads digits into a significand as long as it stays a word.  The answer holds the
significand and the number of digits that were left.
-/
def accumulate (significand : Nat) : List Char → Nat × Nat
  | [] => (significand, 0)
  | digit :: rest =>
    let grown := significand * 10 + (digit.toNat - '0'.toNat)
    if grown < wordLimit then accumulate grown rest else (significand, rest.length + 1)

/-- A power of ten, rounded to the nearest number. -/
def powerOfTen (power : Nat) : Binary64 :=
  Binary64.nearest false 1 power

/--
A significand scaled by a power of ten, or nothing if it gets too large.  Powers below
`10⁻³⁰⁸` are divided by in two steps.
-/
def scaled? (significand : Nat) (power : Int) : Option Binary64 :=
  let start := Binary64.ofInt significand
  if significand = 0 then some start
  else if 308 < power then none
  else if 0 ≤ power then
    let product := start.mul (powerOfTen power.toNat)
    if product.isInfinite then none else some product
  else if -308 ≤ power then some (start.div (powerOfTen (-power).toNat))
  else if -616 ≤ power then
    some ((start.div (powerOfTen 308)).div (powerOfTen (-power - 308).toNat))
  else some (Binary64.zero false)

/-- The floating point number that a numeral is read as, or nothing if it is too large. -/
def Numeral.toFloat? (numeral : Numeral) : Option Binary64 :=
  let (wholePart, wholeLeft) := accumulate 0 numeral.whole
  let (significand, fractionLeft) := accumulate wholePart numeral.fraction
  let places : Int := (numeral.fraction.length - fractionLeft : Nat)
  let power := (numeral.exponent?.getD 0) + wholeLeft - places
  (scaled? significand power).map fun magnitude =>
    if numeral.negative then magnitude.neg else magnitude

/-- The natural number of 64 bits that a numeral denotes, if it is written as one. -/
def Numeral.toWord? (numeral : Numeral) : Option Nat :=
  let n := Digits.toNat numeral.whole
  if numeral.isInteger && !numeral.negative && n < wordLimit then some n else none

/--
The 64-bit integer that a numeral denotes, if it is written as one.  A negative zero
is no integer.
-/
def Numeral.toInteger? (numeral : Numeral) : Option Int64 :=
  let n := Digits.toNat numeral.whole
  if numeral.isInteger && !(numeral.negative && n = 0) then
    NumberText.toInt64? (if numeral.negative then -n else n)
  else none

end LiveTable.Json
