/-!
# Ranges of characters

A class of characters is given by the ascending list of the ranges of code points
that belong to it.
-/

set_option autoImplicit false

namespace LiveTable.Text

/-- Whether a character lies in one of the ranges; both ends belong to a range. -/
def inRanges (ranges : List (Nat × Nat)) (c : Char) : Bool :=
  ranges.any fun range => range.1 ≤ c.toNat && c.toNat ≤ range.2

end LiveTable.Text
