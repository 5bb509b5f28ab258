/-!
# Powers of two and ten

Words are measured by powers of two and decimals by powers of ten.
-/

set_option autoImplicit false

namespace LiveTable

/-- Two to a power. -/
def twoPow (exponent : Nat) : Nat :=
  Nat.pow 2 exponent

/-- Ten to a power. -/
def tenPow (exponent : Nat) : Nat :=
  Nat.pow 10 exponent

end LiveTable
