import LiveTable.Error

/-!
# Operators

The closed list of comparisons that a query can name.
-/

set_option autoImplicit false

namespace LiveTable

/-- A comparison that a query can name. -/
inductive Operator where
  | equals
  | notEqual
  | above
  | aboveOrEqual
  | below
  | belowOrEqual
  | between
  | anyOf
  | noneOf
  | startsWith
  | startsWithAnyOf
  | equalsIgnoreCase
  | anyOfIgnoreCase
  | startsWithIgnoreCase
  | startsWithAnyOfIgnoreCase
deriving Repr, DecidableEq, Inhabited

namespace Operator

/-- Every operator, in the order of the list. -/
def all : List Operator :=
  [.equals, .notEqual, .above, .aboveOrEqual, .below, .belowOrEqual, .between, .anyOf,
    .noneOf, .startsWith, .startsWithAnyOf, .equalsIgnoreCase, .anyOfIgnoreCase,
    .startsWithIgnoreCase, .startsWithAnyOfIgnoreCase]

/-- The name of an operator. -/
def name : Operator → String
  | .equals => "equals"
  | .notEqual => "notEqual"
  | .above => "above"
  | .aboveOrEqual => "aboveOrEqual"
  | .below => "below"
  | .belowOrEqual => "belowOrEqual"
  | .between => "between"
  | .anyOf => "anyOf"
  | .noneOf => "noneOf"
  | .startsWith => "startsWith"
  | .startsWithAnyOf => "startsWithAnyOf"
  | .equalsIgnoreCase => "equalsIgnoreCase"
  | .anyOfIgnoreCase => "anyOfIgnoreCase"
  | .startsWithIgnoreCase => "startsWithIgnoreCase"
  | .startsWithAnyOfIgnoreCase => "startsWithAnyOfIgnoreCase"

/-- Whether the operator compares with a list of values. -/
def takesList : Operator → Bool
  | .anyOf | .noneOf | .startsWithAnyOf | .anyOfIgnoreCase | .startsWithAnyOfIgnoreCase => true
  | _ => false

/-- The operator of a name. -/
def ofName? (name : String) : Option Operator :=
  all.find? fun operator => operator.name == name

/-- The operator of a name, or the error that there is none. -/
def ofName (name : String) : Except Error Operator :=
  match ofName? name with
  | some operator => .ok operator
  | none => .error (.invalidOperator name)

end Operator

end LiveTable
