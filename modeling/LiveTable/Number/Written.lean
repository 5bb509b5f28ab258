import LiveTable.Number.Shortest

/-!
# Written forms of floating point numbers

Three ways of writing a number are used:

* `displayed`, for messages: positional notation always, without a point where the
  number is whole;
* `interchanged`, for interchange texts: positional between `10⁻⁵` and `10¹⁶`, always with
  a point there, and scientific notation elsewhere;
* `rounded`, for statistics: a fixed number of places.

The first two have the fewest digits that read back and differ in the direction of
an exact tie.
-/

set_option autoImplicit false

namespace LiveTable

namespace Decimal

/-- Positional notation, with a point only where digits follow it. -/
def positional (d : Decimal) : List Char :=
  if d.point ≤ 0 then
    ['0', '.'] ++ List.replicate (-d.point).toNat '0' ++ d.digits
  else if (d.digits.length : Int) ≤ d.point then
    d.digits ++ List.replicate (d.point.toNat - d.digits.length) '0'
  else
    d.digits.take d.point.toNat ++ ['.'] ++ d.digits.drop d.point.toNat

/-- One digit, a point where more digits follow, and the exponent with its sign. -/
def scientific (d : Decimal) : List Char :=
  let mantissa :=
    match d.digits with
    | [] => []
    | [single] => [single]
    | first :: rest => first :: '.' :: rest
  let power := d.point - 1
  let sign := if power < 0 then '-' else '+'
  mantissa ++ ['e', sign] ++ Digits.ofNat power.natAbs

end Decimal

namespace Binary64

/-- Puts a minus sign in front of the text of a negative number. -/
def withSign (x : Binary64) (text : List Char) : List Char :=
  if x.isNegative then '-' :: text else text

/-- The text of a number that is not finite, or else the given text with its sign. -/
def orSpecial (x : Binary64) (finiteText : List Char) : List Char :=
  if x.isNaN then ['N', 'a', 'N']
  else if x.isInfinite then x.withSign ['i', 'n', 'f']
  else x.withSign finiteText

/-- Positional notation with the fewest digits that read back; an exact tie goes up. -/
def displayed (x : Binary64) : List Char :=
  x.orSpecial <|
    if x.isZero then ['0'] else (Decimal.shortest .up x).positional

/-- Whether interchange texts write a decimal positionally. -/
def isPositional (d : Decimal) : Bool :=
  -5 < d.point && d.point ≤ 16

/--
The text of a finite number in interchange texts.  It always holds a point or an
exponent, so that it is never taken for an integer; an exact tie goes to even.
-/
def interchanged (x : Binary64) : List Char :=
  x.withSign <|
    if x.isZero then ['0', '.', '0']
    else
      let d := Decimal.shortest .toEven x
      if isPositional d then
        if 0 ≤ d.exponent then d.positional ++ ['.', '0'] else d.positional
      else d.scientific

/-- The text with a fixed number of places; an exact half goes to the even neighbour. -/
def rounded (places : Nat) (x : Binary64) : List Char :=
  let scaled := TieRule.toEven.divide (x.magnitude * tenPow places) unitsPerOne
  let digits := Digits.ofNat scaled
  let padded := List.replicate (places + 1 - digits.length) '0' ++ digits
  let whole := padded.length - places
  x.orSpecial (padded.take whole ++ ['.'] ++ padded.drop whole)

end Binary64

end LiveTable
