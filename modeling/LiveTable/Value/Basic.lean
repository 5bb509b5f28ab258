import LiveTable.Number.Rounding

/-!
# Values

A value is what a record field holds, what a row is stored under and what a query
compares with.  Integers and floating point numbers are different variants, also
where they stand for the same number.

The fields of an object are an association list.  Every object that the library
builds lists them in ascending order of their names, each name once; nothing in
this module relies on it.
-/

set_option autoImplicit false

namespace LiveTable

/-- A dynamically typed value. -/
inductive Value where
  | null
  | boolean (flag : Bool)
  | integer (number : Int64)
  | float (number : Binary64)
  | string (text : String)
  | array (items : List Value)
  | object (fields : List (String × Value))
deriving Repr, Inhabited

namespace Value

/-- Whether the value is the null value. -/
def isNull : Value → Bool
  | .null => true
  | _ => false

/-- Whether the value is a number of either variant. -/
def isNumber : Value → Bool
  | .integer _ | .float _ => true
  | _ => false

/-- The truth value, where the value is one. -/
def asBoolean? : Value → Option Bool
  | .boolean flag => some flag
  | _ => none

/-- The integer, where the value is of the integer variant. -/
def asInteger? : Value → Option Int64
  | .integer number => some number
  | _ => none

/-- The number in floating point, for either variant; an integer is rounded to the nearest. -/
def asFloat? : Value → Option Binary64
  | .integer number => some (Binary64.ofInt number.toInt)
  | .float number => some number
  | _ => none

/-- The text, where the value is one. -/
def asString? : Value → Option String
  | .string text => some text
  | _ => none

/-- The items, where the value is an array. -/
def asArray? : Value → Option (List Value)
  | .array items => some items
  | _ => none

/-- The fields, where the value is an object. -/
def asObject? : Value → Option (List (String × Value))
  | .object fields => some fields
  | _ => none

mutual

/--
Equality of values.  The variants must agree; NaN equals NaN and the two zeros are
equal.
-/
def same : Value → Value → Bool
  | .null, .null => true
  | .boolean a, .boolean b => a == b
  | .integer a, .integer b => a == b
  | .float a, .float b => a.same b
  | .string a, .string b => a == b
  | .array a, .array b => sameItems a b
  | .object a, .object b => sameFields a b
  | _, _ => false

/-- Equality of lists of values, item by item. -/
def sameItems : List Value → List Value → Bool
  | [], [] => true
  | a :: restA, b :: restB => same a b && sameItems restA restB
  | _, _ => false

/-- Equality of lists of fields, names and values alike. -/
def sameFields : List (String × Value) → List (String × Value) → Bool
  | [], [] => true
  | (nameA, a) :: restA, (nameB, b) :: restB =>
    nameA == nameB && same a b && sameFields restA restB
  | _, _ => false

end

instance : BEq Value where
  beq := same

end Value

end LiveTable
