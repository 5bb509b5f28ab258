import LiveTable.Condition
import LiveTable.Query.Operand
import LiveTable.Query.Operator
import LiveTable.Value.Display

/-!
# Comparisons

An operator and its operand together denote a condition, unless the operand does not
fit.  Operators on texts accept numbers and truth values too, in the form in which
messages show them.
-/

set_option autoImplicit false

namespace LiveTable

/-- Why an operand does not fit an operator. -/
inductive OperandFault where
  | missingBounds (given : Nat)
  | missingList
  | notText (value : Value)
deriving Repr

/-- The wording of a fault. -/
def OperandFault.message : OperandFault → String
  | .missingBounds given => s!"expected two bounds, got {given}"
  | .missingList => "expected a list of values"
  | .notText value =>
    let shown := value.toText
    s!"expected text, got {shown}"

namespace Operator

/-- The text that a value stands for in a comparison of texts. -/
def textOf (value : Value) : Except OperandFault String :=
  match value with
  | .string text => .ok text
  | .integer _ | .float _ | .boolean _ => .ok value.toText
  | _ => .error (.notText value)

/-- The list of values that an operand stands for. -/
def valuesOf (operand : Operand) : Except OperandFault (List Value) :=
  if operand.isNull then .error .missingList else .ok operand.list

/-- The list of texts that an operand stands for. -/
def textsOf (operand : Operand) : Except OperandFault (List String) := do
  let values ← valuesOf operand
  values.mapM textOf

/-- The truth value at a position of a list, or a default. -/
def flagAt (values : List Value) (position : Nat) (default : Bool) : Bool :=
  (values[position]?.bind Value.asBoolean?).getD default

/-- The condition of two bounds, optionally followed by two flags that include them. -/
def betweenOf (values : List Value) : Except OperandFault Condition :=
  match values with
  | lower :: upper :: _ =>
    .ok (.between lower upper (flagAt values 2 true) (flagAt values 3 false))
  | _ => .error (.missingBounds values.length)

/-- The condition that an operator and its operand denote. -/
def conditionOn (operator : Operator) (operand : Operand) : Except OperandFault Condition :=
  match operator with
  | .equals => .ok (.equals operand.scalar)
  | .notEqual => .ok (.notEqual operand.scalar)
  | .above => .ok (.above operand.scalar)
  | .aboveOrEqual => .ok (.aboveOrEqual operand.scalar)
  | .below => .ok (.below operand.scalar)
  | .belowOrEqual => .ok (.belowOrEqual operand.scalar)
  | .between => betweenOf operand.list
  | .anyOf => Condition.anyOf <$> valuesOf operand
  | .noneOf => Condition.noneOf <$> valuesOf operand
  | .startsWith => Condition.startsWith <$> textOf operand.scalar
  | .startsWithAnyOf => Condition.startsWithAnyOf <$> textsOf operand
  | .equalsIgnoreCase => Condition.equalsIgnoreCase <$> textOf operand.scalar
  | .anyOfIgnoreCase => Condition.anyOfIgnoreCase <$> textsOf operand
  | .startsWithIgnoreCase => Condition.startsWithIgnoreCase <$> textOf operand.scalar
  | .startsWithAnyOfIgnoreCase => Condition.startsWithAnyOfIgnoreCase <$> textsOf operand

/-- The condition, a fault being reported under the name of the operator. -/
def condition (operator : Operator) (operand : Operand) : Except Error Condition :=
  match operator.conditionOn operand with
  | .ok condition => .ok condition
  | .error fault => .error (.invalidOperand operator.name fault.message)

end Operator

/-- The operator that denotes a condition. -/
def Condition.operator : Condition → Operator
  | .equals _ => .equals
  | .notEqual _ => .notEqual
  | .above _ => .above
  | .aboveOrEqual _ => .aboveOrEqual
  | .below _ => .below
  | .belowOrEqual _ => .belowOrEqual
  | .between _ _ _ _ => .between
  | .anyOf _ => .anyOf
  | .noneOf _ => .noneOf
  | .startsWith _ => .startsWith
  | .startsWithAnyOf _ => .startsWithAnyOf
  | .equalsIgnoreCase _ => .equalsIgnoreCase
  | .anyOfIgnoreCase _ => .anyOfIgnoreCase
  | .startsWithIgnoreCase _ => .startsWithIgnoreCase
  | .startsWithAnyOfIgnoreCase _ => .startsWithAnyOfIgnoreCase

/-- The condition that a comparison by name denotes. -/
def Condition.ofComparison (operator : String) (value? : Option Value) :
    Except Error Condition := do
  let known ← Operator.ofName operator
  known.condition (Operand.coerce value?)

end LiveTable
