import LiveTable.Value.Basic

/-!
# The order of values

Values are ordered by kind first, the two numeric variants being one kind: null,
booleans, numbers, texts, arrays, objects.  Numbers are compared exactly, whatever
their variants; texts by code point; arrays and objects lexicographically, an object
as the list of its fields.

Two values that this order does not tell apart are the same *key*, although they may
differ as values: the integer 5 and the floating point number 5.
-/

set_option autoImplicit false

namespace LiveTable.Value

/-- The position of a value's kind among all kinds. -/
def rank : Value → Nat
  | .null => 0
  | .boolean _ => 1
  | .integer _ => 2
  | .float _ => 2
  | .string _ => 3
  | .array _ => 4
  | .object _ => 5

mutual

/-- The order of values. -/
def order : Value → Value → Ordering
  | .boolean a, .boolean b => compare a.toNat b.toNat
  | .integer a, .integer b => compare a.toInt b.toInt
  | .integer a, .float b => Binary64.orderInt a b
  | .float a, .integer b => (Binary64.orderInt b a).swap
  | .float a, .float b => Binary64.order a b
  | .string a, .string b => compare a b
  | .array a, .array b => orderItems a b
  | .object a, .object b => orderFields a b
  | a, b => compare a.rank b.rank

/-- The lexicographic order of lists of values. -/
def orderItems : List Value → List Value → Ordering
  | [], [] => .eq
  | [], _ :: _ => .lt
  | _ :: _, [] => .gt
  | a :: restA, b :: restB => (order a b).then (orderItems restA restB)

/-- The lexicographic order of lists of fields; a field is ordered by name, then by value. -/
def orderFields : List (String × Value) → List (String × Value) → Ordering
  | [], [] => .eq
  | [], _ :: _ => .lt
  | _ :: _, [] => .gt
  | (nameA, a) :: restA, (nameB, b) :: restB =>
    ((compare nameA nameB).then (order a b)).then (orderFields restA restB)

end

instance : Ord Value where
  compare := order

/-- Whether two values are the same key. -/
def sameKey (a b : Value) : Bool :=
  a.order b = .eq

/-- Whether a value comes before another or is the same key. -/
def notAfter (a b : Value) : Bool :=
  (a.order b).isLE

end LiveTable.Value
