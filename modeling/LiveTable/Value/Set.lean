import LiveTable.OrderedMap
import LiveTable.Value.Order

/-!
# Sets and sorted lists of values

A set of values holds one value per key; a value that is the same key as a member is
not taken in.
-/

set_option autoImplicit false

namespace LiveTable

/-- A set of values, one per key. -/
abbrev ValueSet := OrderedMap Value Unit

namespace ValueSet

/-- Takes a value in unless the same key is there already. -/
def add (set : ValueSet) (value : Value) : ValueSet :=
  if set.contains value then set else set.insert value ()

/-- Takes in one value after the other. -/
def addAll (set : ValueSet) (values : List Value) : ValueSet :=
  values.foldl add set

end ValueSet

/-- The values in ascending order; values that are the same key keep their order. -/
def Value.sorted (values : List Value) : List Value :=
  values.mergeSort Value.notAfter

end LiveTable
