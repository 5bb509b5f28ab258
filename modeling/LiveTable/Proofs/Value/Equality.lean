import LiveTable.Proofs.Value.TotalOrder
import LiveTable.Query.Result

/-!
# Equality of values and answers

Every value equals itself, NaN included, and so does every answer of a query.  What is to be shown
of equal values is shown of their kinds one by one: only numbers of floating point can be equal
without being identical.
-/

set_option autoImplicit false

namespace LiveTable

namespace Value

mutual

@[simp]
theorem same_refl : ∀ value : Value, value.same value = true
  | .null => by simp [same]
  | .boolean flag => by simp [same]
  | .integer number => by simp [same]
  | .float number => by
      have equal : compare (Value.float number) (.float number) = .eq :=
        Std.ReflOrd.compare_self
      change (Value.float number).order (.float number) = .eq at equal
      rw [order] at equal
      rw [same, Binary64.same, equal]
      rfl
  | .string text => by simp [same]
  | .array items => by
      rw [same]
      exact sameItems_refl items
  | .object fields => by
      rw [same]
      exact sameFields_refl fields

theorem sameItems_refl : ∀ items : List Value, sameItems items items = true
  | [] => by rw [sameItems]
  | item :: rest => by
      rw [sameItems, same_refl item, sameItems_refl rest]
      rfl

theorem sameFields_refl : ∀ fields : List (String × Value), sameFields fields fields = true
  | [] => by rw [sameFields]
  | (name, value) :: rest => by
      rw [sameFields, same_refl value, sameFields_refl rest]
      simp

end

/-! ## Along equality -/

/-- Relations that hold of equal values, of equal lists of items and of equal lists of fields. -/
structure HoldsOfSame (onValues : Value → Value → Prop) (onItems : List Value → List Value → Prop)
    (onFields : List (String × Value) → List (String × Value) → Prop) : Prop where
  null : onValues .null .null
  boolean (flag : Bool) : onValues (.boolean flag) (.boolean flag)
  integer (number : Int64) : onValues (.integer number) (.integer number)
  float {x y : Binary64} (equal : x.same y) : onValues (.float x) (.float y)
  string (text : String) : onValues (.string text) (.string text)
  array {items others : List Value} (alike : onItems items others) :
    onValues (.array items) (.array others)
  object {fields others : List (String × Value)} (alike : onFields fields others) :
    onValues (.object fields) (.object others)
  noItems : onItems [] []
  item {a b : Value} {rest others : List Value} (first : onValues a b)
    (more : onItems rest others) : onItems (a :: rest) (b :: others)
  noFields : onFields [] []
  field {name : String} {a b : Value} {rest others : List (String × Value)}
    (first : onValues a b) (more : onFields rest others) :
    onFields ((name, a) :: rest) ((name, b) :: others)

variable {onValues : Value → Value → Prop} {onItems : List Value → List Value → Prop}
  {onFields : List (String × Value) → List (String × Value) → Prop}

mutual

theorem HoldsOfSame.values (holds : HoldsOfSame onValues onItems onFields) (a b : Value)
    (equal : a.same b) : onValues a b := by
  cases a with
  | null => cases b <;> simp_all [same, holds.null]
  | boolean flag => cases b <;> simp_all [same, holds.boolean]
  | integer number => cases b <;> simp_all [same, holds.integer]
  | float number =>
      cases b with
      | float other => exact holds.float (by simpa [same] using equal)
      | _ => simp [same] at equal
  | string text => cases b <;> simp_all [same, holds.string]
  | array items =>
      cases b with
      | array others => exact holds.array (holds.items items others (by simpa [same] using equal))
      | _ => simp [same] at equal
  | object fields =>
      cases b with
      | object others =>
          exact holds.object (holds.fields fields others (by simpa [same] using equal))
      | _ => simp [same] at equal

theorem HoldsOfSame.items (holds : HoldsOfSame onValues onItems onFields) (a b : List Value)
    (equal : sameItems a b) : onItems a b := by
  cases a with
  | nil => cases b <;> simp_all [sameItems, holds.noItems]
  | cons first rest =>
      cases b with
      | nil => simp [sameItems] at equal
      | cons other others =>
          simp only [sameItems, Bool.and_eq_true] at equal
          exact holds.item (holds.values first other equal.1) (holds.items rest others equal.2)

theorem HoldsOfSame.fields (holds : HoldsOfSame onValues onItems onFields)
    (a b : List (String × Value)) (equal : sameFields a b) : onFields a b := by
  cases a with
  | nil => cases b <;> simp_all [sameFields, holds.noFields]
  | cons first rest =>
      cases b with
      | nil => simp [sameFields] at equal
      | cons other others =>
          rcases first with ⟨name, value⟩
          rcases other with ⟨otherName, otherValue⟩
          simp only [sameFields, Bool.and_eq_true, beq_iff_eq] at equal
          rcases equal with ⟨⟨rfl, equal⟩, more⟩
          exact holds.field (holds.values value otherValue equal) (holds.fields rest others more)

end

end Value

theorem QueryResult.sameRecords_refl (records : List Record) :
    sameRecords records records = true := by
  induction records with
  | nil => rfl
  | cons record rest ih =>
      rw [sameRecords, ih, Record.same, Value.same_refl]
      rfl

@[simp]
theorem QueryResult.same_refl (answer : QueryResult) : answer.same answer = true := by
  cases answer with
  | records found => exact sameRecords_refl found
  | count total => exact beq_self_eq_true total
  | keys found => exact Value.sameItems_refl found
  | deleted total => exact beq_self_eq_true total
  | unmaterialized => rfl

end LiveTable
