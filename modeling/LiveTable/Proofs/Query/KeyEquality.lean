import LiveTable.Proofs.Query.Comparison
import LiveTable.Proofs.Value.Forms
import Mathlib.Data.List.Forall2

/-!
# Conditions and keys

A condition does not tell two forms of one key apart, such as the integer 5 and the floating
point number 5, however deep they lie in a value.  This holds of the value that it is asked
about, and of every operand of a condition that compares values.

The order of values takes the forms of a key alike on both sides.  A condition on texts is
satisfied by texts only, and of a text there is one form.
-/

set_option autoImplicit false

namespace LiveTable

namespace Value

variable {a b : Value}

theorem sameKey_congr_left (same : a.sameKey b) (value : Value) :
    a.sameKey value = b.sameKey value := by
  rw [sameKey, sameKey, order_congr_left same]

theorem sameKey_congr_right (same : a.sameKey b) (value : Value) :
    value.sameKey a = value.sameKey b := by
  rw [sameKey, sameKey, order_congr_right same]

/-- A value is a key of a list if it is one of a list of other forms. -/
theorem any_sameKey_of_forall₂ {first second : List Value}
    (forms : List.Forall₂ (fun a b => a.sameKey b) first second) (value : Value) :
    first.any value.sameKey = second.any value.sameKey := by
  induction forms with
  | nil => rfl
  | cons same _ ih => rw [List.any_cons, List.any_cons, ih, sameKey_congr_right same]

end Value

namespace Condition

/-- Two conditions compare in one way with operands of one key each. -/
inductive SameOperands : Condition → Condition → Prop where
  | equals {a b : Value} (same : a.sameKey b) : SameOperands (.equals a) (.equals b)
  | notEqual {a b : Value} (same : a.sameKey b) : SameOperands (.notEqual a) (.notEqual b)
  | above {a b : Value} (same : a.sameKey b) : SameOperands (.above a) (.above b)
  | aboveOrEqual {a b : Value} (same : a.sameKey b) :
      SameOperands (.aboveOrEqual a) (.aboveOrEqual b)
  | below {a b : Value} (same : a.sameKey b) : SameOperands (.below a) (.below b)
  | belowOrEqual {a b : Value} (same : a.sameKey b) :
      SameOperands (.belowOrEqual a) (.belowOrEqual b)
  | between {lower upper otherLower otherUpper : Value} (includeLower includeUpper : Bool)
      (sameLower : lower.sameKey otherLower) (sameUpper : upper.sameKey otherUpper) :
      SameOperands (.between lower upper includeLower includeUpper)
        (.between otherLower otherUpper includeLower includeUpper)
  | anyOf {targets others : List Value}
      (same : List.Forall₂ (fun a b => a.sameKey b) targets others) :
      SameOperands (.anyOf targets) (.anyOf others)
  | noneOf {targets others : List Value}
      (same : List.Forall₂ (fun a b => a.sameKey b) targets others) :
      SameOperands (.noneOf targets) (.noneOf others)

variable {condition other : Condition} {a b : Value}

/-- What a condition says of a value it says of every form of its key. -/
theorem holdsOf_congr (same : a.sameKey b) (condition : Condition) :
    condition.holdsOf a = condition.holdsOf b := by
  have order := Value.order_congr_left same
  have key : a.sameKey = b.sameKey := funext (Value.sameKey_congr_left same)
  have text := Value.asString?_congr same
  cases condition with
  | equals | notEqual | anyOf | noneOf => simp only [holdsOf, key]
  | above | aboveOrEqual | below | belowOrEqual | between => simp only [holdsOf, order]
  | startsWith | startsWithAnyOf | equalsIgnoreCase | anyOfIgnoreCase
  | startsWithIgnoreCase | startsWithAnyOfIgnoreCase => simp only [holdsOf, text]

theorem SameOperands.holdsOf (operands : condition.SameOperands other) (value : Value) :
    condition.holdsOf value = other.holdsOf value := by
  cases operands with
  | equals same | notEqual same => simp only [Condition.holdsOf, Value.sameKey_congr_right same]
  | above same | aboveOrEqual same | below same | belowOrEqual same =>
      simp only [Condition.holdsOf, Value.order_congr_right same]
  | between includeLower includeUpper sameLower sameUpper =>
      simp only [Condition.holdsOf, Value.order_congr_right sameLower,
        Value.order_congr_right sameUpper]
  | anyOf same | noneOf same =>
      simp only [Condition.holdsOf, Value.any_sameKey_of_forall₂ same]

/--
Conditions respect keys.  A condition holds of a value if and only if it holds of another form
of the same key; and a comparison with one value, with bounds or with a list of values holds of
the same fields after operands have been put in other forms.
-/
theorem conditions_respect_keys (condition : Condition) :
    (∀ a b : Value, a.sameKey b →
      (condition.holds (some a) = true ↔ condition.holds (some b) = true)) ∧
    ∀ other, condition.SameOperands other → condition.Alike other := by
  constructor
  · intro a b same
    rw [holds, holds, Value.isNull_congr same, holdsOf_congr same]
  · intro other operands
    exact .of_holdsOf operands.holdsOf

/-- Numbers deep in arrays and objects are compared as keys, too. -/
theorem conditions_respect_nested_keys :
    let whole : Value := .array [.integer 5, .object [("a", .float (.zero false))]]
    let other : Value := .array [.float (.ofInt 5), .object [("a", .float (.zero true))]]
    let condition : Condition := .between whole (.integer 9) true false
    let respelled : Condition := .between other (.float (.ofInt 9)) true false
    whole.sameKey other ∧ condition.SameOperands respelled ∧ condition.Alike respelled ∧
      (Condition.anyOf [other]).holds (some whole) = true ∧
        (Condition.anyOf [other]).holds (some other) = true := by
  intro whole other condition respelled
  have same : whole.sameKey other := by decide +kernel
  have operands : condition.SameOperands respelled :=
    .between true false same (by decide +kernel)
  have found : (Condition.anyOf [other]).holds (some whole) = true := by decide +kernel
  exact ⟨same, operands, (conditions_respect_keys condition).2 respelled operands, found,
    ((conditions_respect_keys (.anyOf [other])).1 whole other same).mp found⟩

end Condition

end LiveTable
