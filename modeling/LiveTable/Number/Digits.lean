/-!
# Decimal digits

Natural numbers as strings of ASCII digits, most significant first, and back.
-/

set_option autoImplicit false

namespace LiveTable.Digits

/-- The decimal digits of a number; zero has the one digit `0`. -/
def ofNat (n : Nat) : List Char :=
  Nat.toDigits 10 n

/-- How many decimal digits a number has; zero has none. -/
def count (n : Nat) : Nat :=
  if n = 0 then 0 else (ofNat n).length

/-- The value of one digit in a base, if the character is one. -/
def valueIn? (base : Nat) (c : Char) : Option Nat :=
  let value? :=
    if '0' ≤ c ∧ c ≤ '9' then some (c.toNat - '0'.toNat)
    else if 'a' ≤ c ∧ c ≤ 'z' then some (c.toNat - 'a'.toNat + 10)
    else if 'A' ≤ c ∧ c ≤ 'Z' then some (c.toNat - 'A'.toNat + 10)
    else none
  value?.filter (· < base)

/-- The number that a string of digits in a base denotes; no digits denote zero. -/
def readIn? (base : Nat) (text : List Char) : Option Nat :=
  text.foldlM (fun total c => (valueIn? base c).map (total * base + ·)) 0

/-- The number that a string of decimal digits denotes. -/
def read? (text : List Char) : Option Nat :=
  readIn? 10 text

/-- The value of a string of characters all of which are decimal digits. -/
def toNat (text : List Char) : Nat :=
  text.foldl (fun total c => total * 10 + (c.toNat - '0'.toNat)) 0

/-- An integer in decimal, with a minus sign where it is negative. -/
def ofInt (n : Int) : List Char :=
  if n < 0 then '-' :: ofNat n.natAbs else ofNat n.natAbs

end LiveTable.Digits
