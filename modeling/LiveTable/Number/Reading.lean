import LiveTable.Number.Shortest

/-!
# Reading numbers

`nearest` is the `Binary64` nearest to a decimal, computed exactly.  The grammar of
a number in an operand text is read here too: an optional sign, digits with at most
one point among or beside them, and an optional exponent.
-/

set_option autoImplicit false

namespace LiveTable

namespace Binary64

/--
The number nearest to `coefficient · 10 ^ exponent`.

A magnitude of `10³¹⁰` or more is beyond every finite number and one below `10⁻³³⁰` is below half
the least positive number; both are decided without computing the power.
-/
def nearest (negative : Bool) (coefficient : Nat) (exponent : Int) : Binary64 :=
  let point := (Digits.count coefficient : Int) + exponent
  if coefficient = 0 then zero negative
  else if 310 < point then infinity negative
  else if point < -330 then zero negative
  else
    ofRatio negative (coefficient * Decimal.powerNumerator exponent)
      (Decimal.powerDenominator exponent)

end Binary64

namespace NumberText

/-- Splits a leading sign off; the flag says that it was a minus. -/
def splitSign : List Char → Bool × List Char
  | '-' :: rest => (true, rest)
  | '+' :: rest => (false, rest)
  | text => (false, text)

/-- Whether a character is a decimal digit. -/
def isDigit (c : Char) : Bool :=
  '0' ≤ c && c ≤ '9'

/-- The digits in front, and what follows them. -/
def splitDigits (text : List Char) : List Char × List Char :=
  (text.takeWhile isDigit, text.dropWhile isDigit)

/-- The exponent at the end of a number: nothing, or the letter, a sign and digits. -/
def readExponent? : List Char → Option Int
  | [] => some 0
  | letter :: text =>
    if letter = 'e' ∨ letter = 'E' then
      let (negative, digits) := splitSign text
      if digits ≠ [] ∧ digits.all isDigit then
        let power : Int := Digits.toNat digits
        some (if negative then -power else power)
      else none
    else none

/-- The digits after the point, if there is one, and what follows them. -/
def splitFraction : List Char → List Char × List Char
  | '.' :: text => splitDigits text
  | text => ([], text)

/--
The number nearest to a decimal text, where the text is one: a sign, digits around
at most one point, at least one of them, and an exponent.
-/
def readFloat? (text : List Char) : Option Binary64 :=
  let (negative, unsigned) := splitSign text
  let (whole, afterWhole) := splitDigits unsigned
  let (fraction, afterFraction) := splitFraction afterWhole
  if whole.isEmpty && fraction.isEmpty then none
  else
    (readExponent? afterFraction).map fun power =>
      Binary64.nearest negative (Digits.toNat (whole ++ fraction)) (power - fraction.length)

/-- The integers of 64 bits. -/
def toInt64? (n : Int) : Option Int64 :=
  if -(twoPow 63 : Int) ≤ n ∧ n < twoPow 63 then some (Int64.ofInt n) else none

/-- A 64-bit integer in a base: an optional sign and at least one digit. -/
def readIntIn? (base : Nat) (text : List Char) : Option Int64 :=
  let (negative, digits) := splitSign text
  if digits.isEmpty then none
  else (Digits.readIn? base digits).bind fun n => toInt64? (if negative then -n else n)

/-- A 64-bit integer in decimal. -/
def readInt? (text : List Char) : Option Int64 :=
  readIntIn? 10 text

end NumberText

end LiveTable
