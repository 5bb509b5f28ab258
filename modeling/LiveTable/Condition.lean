import LiveTable.Text.Lowercase
import LiveTable.Value.Order

/-!
# Conditions

A condition is asked about the value of one field.  A field that is absent or null
satisfies no condition, not even a negative one.

The comparing conditions use the order of values, so that the integer 5 equals the
floating point number 5.  The conditions on texts are satisfied by texts only; those
that ignore case compare the lower case of the whole text with the lower case of the
whole target.
-/

set_option autoImplicit false

namespace LiveTable

/-- A condition on the value of a field. -/
inductive Condition where
  | equals (target : Value)
  | notEqual (target : Value)
  | above (target : Value)
  | aboveOrEqual (target : Value)
  | below (target : Value)
  | belowOrEqual (target : Value)
  | between (lower upper : Value) (includeLower includeUpper : Bool)
  | anyOf (targets : List Value)
  | noneOf (targets : List Value)
  | startsWith (start : String)
  | startsWithAnyOf (starts : List String)
  | equalsIgnoreCase (target : String)
  | anyOfIgnoreCase (targets : List String)
  | startsWithIgnoreCase (start : String)
  | startsWithAnyOfIgnoreCase (starts : List String)
deriving Repr, Inhabited

namespace Condition

/-- The characters of a text in lower case. -/
def folded (text : String) : List Char :=
  Text.lowercase text.toList

/-- Whether a value satisfies a condition, given that the value is not null. -/
def holdsOf (value : Value) : Condition → Bool
  | .equals target => value.sameKey target
  | .notEqual target => !value.sameKey target
  | .above target => (value.order target).isGT
  | .aboveOrEqual target => (value.order target).isGE
  | .below target => (value.order target).isLT
  | .belowOrEqual target => (value.order target).isLE
  | .between lower upper includeLower includeUpper =>
    (if includeLower then (value.order lower).isGE else (value.order lower).isGT) &&
      (if includeUpper then (value.order upper).isLE else (value.order upper).isLT)
  | .anyOf targets => targets.any value.sameKey
  | .noneOf targets => !targets.any value.sameKey
  | .startsWith start =>
    value.asString?.any fun text => start.toList.isPrefixOf text.toList
  | .startsWithAnyOf starts =>
    value.asString?.any fun text => starts.any fun start => start.toList.isPrefixOf text.toList
  | .equalsIgnoreCase target =>
    value.asString?.any fun text => folded text == folded target
  | .anyOfIgnoreCase targets =>
    value.asString?.any fun text => targets.any fun target => folded text == folded target
  | .startsWithIgnoreCase start =>
    value.asString?.any fun text => (folded start).isPrefixOf (folded text)
  | .startsWithAnyOfIgnoreCase starts =>
    value.asString?.any fun text => starts.any fun start =>
      (folded start).isPrefixOf (folded text)

/-- Whether a field satisfies a condition; an absent or null field never does. -/
def holds (condition : Condition) : Option Value → Bool
  | none => false
  | some value => !value.isNull && condition.holdsOf value

end Condition

end LiveTable
