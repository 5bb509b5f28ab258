import LiveTable.Proofs.Value.Spelling
import LiveTable.Query.Descriptor
import LiveTable.Query.Comparison

/-!
# Equal operands denote the same condition

An operator does the same with equal operands, as long as it compares values: the
conditions that it denotes hold of the same values.  An operator on texts goes by the
texts of its operands, which equal operands need not share, for a zero of floating point
is written with its sign; where they are shown alike its failures are worded alike too.
-/

set_option autoImplicit false

namespace LiveTable

/-! ## Outcomes that correspond -/

/-- Two outcomes are successes that are alike, or failures that are alike. -/
inductive Corresponds {Failure α : Type} (AlikeFailure : Failure → Failure → Prop)
    (Alike : α → α → Prop) : Except Failure α → Except Failure α → Prop where
  | ok {first second : α} (alike : Alike first second) :
      Corresponds AlikeFailure Alike (.ok first) (.ok second)
  | error {first second : Failure} (alike : AlikeFailure first second) :
      Corresponds AlikeFailure Alike (.error first) (.error second)

namespace Corresponds

variable {Failure α β : Type} {AlikeFailure : Failure → Failure → Prop}
  {Alike : α → α → Prop} {AlikeNext : β → β → Prop}

theorem refl (outcome : Except Failure α) (alikeFailure : ∀ failure, AlikeFailure failure failure)
    (alike : ∀ a, Alike a a) : Corresponds AlikeFailure Alike outcome outcome := by
  cases outcome with
  | ok a => exact .ok (alike a)
  | error failure => exact .error (alikeFailure failure)

theorem bind
    {first second : Except Failure α} {next nextSecond : α → Except Failure β}
    (corresponds : Corresponds AlikeFailure Alike first second)
    (rest : ∀ {a b}, Alike a b → Corresponds AlikeFailure AlikeNext (next a) (nextSecond b)) :
    Corresponds AlikeFailure AlikeNext (first >>= next) (second >>= nextSecond) := by
  cases corresponds with
  | ok alike => exact rest alike
  | error alike => exact .error alike

theorem map
    {first second : Except Failure α} {change : α → β}
    (corresponds : Corresponds AlikeFailure Alike first second)
    (changed : ∀ {a b}, Alike a b → AlikeNext (change a) (change b)) :
    Corresponds AlikeFailure AlikeNext (change <$> first) (change <$> second) := by
  cases corresponds with
  | ok alike => exact .ok (changed alike)
  | error alike => exact .error alike

end Corresponds

/-! ## Operands -/

namespace Operand

/-- Two operands are equal, however an operator takes them. -/
structure Same (first second : Operand) : Prop where
  scalar : first.scalar.same second.scalar
  list : Value.sameItems first.list second.list
  isNull : first.isNull = second.isNull

theorem Same.refl (operand : Operand) : operand.Same operand :=
  ⟨Value.same_refl _, Value.sameItems_refl _, rfl⟩

theorem isNull_of_same {first second : Value} (equal : first.same second) :
    first.isNull = second.isNull := by
  cases first <;> cases second <;> simp_all [Value.same, Value.isNull]

theorem Same.single {first second : Value} (equal : first.same second) :
    (single first).Same (single second) := by
  refine ⟨equal, ?_, isNull_of_same equal⟩
  simp only [Operand.list, isNull_of_same equal]
  split <;> simp [Value.sameItems, equal]

/-- Equal values are coerced to equal operands. -/
theorem coerce_same {first second : Option Value} (equal : Clause.sameValue? first second) :
    (coerce first).Same (coerce second) := by
  cases first with
  | none =>
      cases second with
      | none => exact .refl _
      | some value => simp [Clause.sameValue?] at equal
  | some first =>
      cases second with
      | none => simp [Clause.sameValue?] at equal
      | some second =>
          simp only [Clause.sameValue?] at equal
          cases first with
          | array items =>
              cases second with
              | array others =>
                  have items : Value.sameItems items others := by simpa [Value.same] using equal
                  exact ⟨equal, items, rfl⟩
              | _ => simp [Value.same] at equal
          | string text =>
              cases second with
              | string other =>
                  simp only [Value.same, beq_iff_eq] at equal
                  subst equal
                  exact .refl _
              | _ => simp [Value.same] at equal
          | null | boolean | integer | float | object =>
              cases second <;> first
                | exact .single equal
                | simp [Value.same] at equal

/-- Two operands are shown by the same texts, however an operator on texts takes them. -/
structure Shown (first second : Operand) : Prop where
  scalar : first.scalar.toText = second.scalar.toText
  list : first.list.map Value.toText = second.list.map Value.toText

theorem Shown.refl (operand : Operand) : operand.Shown operand :=
  ⟨rfl, rfl⟩

theorem Shown.single {first second : Value} (equal : first.same second)
    (shown : first.toText = second.toText) : (single first).Shown (single second) := by
  refine ⟨shown, ?_⟩
  simp only [Operand.list, isNull_of_same equal]
  split <;> simp [shown]

/-- Equal values that are shown by the same text are coerced to such operands. -/
theorem coerce_shown {first second : Option Value} (equal : Clause.sameValue? first second)
    (shown : first.map Value.toText = second.map Value.toText) :
    (coerce first).Shown (coerce second) := by
  cases first with
  | none =>
      cases second with
      | none => exact .refl _
      | some value => contradiction
  | some first =>
      cases second with
      | none => contradiction
      | some second =>
          simp only [Clause.sameValue?] at equal
          have shown := Option.some.inj shown
          cases first with
          | array items =>
              cases second with
              | array others =>
                  have items : Value.sameItems items others := by simpa [Value.same] using equal
                  exact ⟨shown, Value.map_toText_of_same items shown⟩
              | _ => simp [Value.same] at equal
          | string text =>
              cases second with
              | string other =>
                  simp only [Value.same, beq_iff_eq] at equal
                  subst equal
                  exact .refl _
              | _ => simp [Value.same] at equal
          | null | boolean | integer | float | object =>
              cases second <;> first
                | exact .single equal shown
                | simp [Value.same] at equal

end Operand

/-! ## Conditions -/

namespace Condition

/-- Two conditions hold of the same values. -/
def Alike (first second : Condition) : Prop :=
  ∀ value? : Option Value, first.holds value? = second.holds value?

theorem Alike.refl (condition : Condition) : condition.Alike condition :=
  fun _ => rfl

theorem Alike.of_holdsOf {first second : Condition}
    (same : ∀ value, first.holdsOf value = second.holdsOf value) : first.Alike second := by
  rintro (_ | value)
  · rfl
  · rw [holds, holds, same value]

end Condition

namespace Value

theorem any_sameKey_congr {first second : List Value} (equal : sameItems first second)
    (value : Value) : first.any value.sameKey = second.any value.sameKey := by
  induction first generalizing second with
  | nil => cases second <;> simp_all [sameItems]
  | cons item rest ih =>
      cases second with
      | nil => simp [sameItems] at equal
      | cons other others =>
          simp only [sameItems, Bool.and_eq_true] at equal
          rw [List.any_cons, List.any_cons, ih equal.2, sameKey, sameKey,
            order_congr equal.1 value]

end Value

namespace Operator

/-- Whether the operator compares texts. -/
def comparesText : Operator → Bool
  | .startsWith | .startsWithAnyOf | .equalsIgnoreCase | .anyOfIgnoreCase
  | .startsWithIgnoreCase | .startsWithAnyOfIgnoreCase => true
  | _ => false

/-- Two faults are worded alike. -/
def SameMessage (first second : OperandFault) : Prop :=
  first.message = second.message

theorem flagAt_congr {first second : List Value} (equal : Value.sameItems first second)
    (position : Nat) (default : Bool) :
    flagAt first position default = flagAt second position default := by
  induction first generalizing second position with
  | nil => cases second <;> simp_all [Value.sameItems]
  | cons item rest ih =>
      cases second with
      | nil => simp [Value.sameItems] at equal
      | cons other others =>
          simp only [Value.sameItems, Bool.and_eq_true] at equal
          cases position with
          | zero =>
              have same := equal.1
              cases item <;> cases other <;> simp_all [Value.same, flagAt, Value.asBoolean?]
          | succ position => exact ih equal.2 position

theorem betweenOf_corresponds {first second : List Value}
    (equal : Value.sameItems first second) :
    Corresponds SameMessage Condition.Alike (betweenOf first) (betweenOf second) := by
  match first, second, equal with
  | [], [], _ => exact .error rfl
  | [_], [_], _ => exact .error rfl
  | lower :: upper :: rest, otherLower :: otherUpper :: others, equal =>
      have flags := flagAt_congr equal
      simp only [Value.sameItems, Bool.and_eq_true] at equal
      rcases equal with ⟨sameLower, sameUpper, _⟩
      rw [betweenOf, betweenOf, flags, flags]
      refine .ok (.of_holdsOf fun value => ?_)
      simp only [Condition.holdsOf, Value.order_congr sameLower, Value.order_congr sameUpper]
  | [], _ :: _, equal | _ :: _, [], equal => simp [Value.sameItems] at equal
  | [_], _ :: _ :: _, equal | _ :: _ :: _, [_], equal => simp [Value.sameItems] at equal

theorem valuesOf_corresponds {first second : Operand} (same : first.Same second) :
    Corresponds SameMessage (fun a b => Value.sameItems a b = true) (valuesOf first)
      (valuesOf second) := by
  rw [valuesOf, valuesOf, same.isNull]
  split
  · exact .error rfl
  · exact .ok same.list

/-- Equal values shown alike stand for the same text, or are no texts for the same reason. -/
theorem textOf_corresponds {first second : Value} (equal : first.same second)
    (shown : first.toText = second.toText) :
    Corresponds SameMessage Eq (textOf first) (textOf second) := by
  have worded : (OperandFault.notText first).message = (OperandFault.notText second).message :=
    congrArg (fun text => s!"expected text, got {text}") shown
  cases first with
  | string text =>
      cases second with
      | string other => exact .ok (by simpa [Value.same] using equal)
      | _ => simp [Value.same] at equal
  | boolean | integer | float =>
      cases second <;> simp only [Value.same, Bool.false_eq_true] at equal
      exact .ok shown
  | null | array | object =>
      cases second <;> simp only [Value.same, Bool.false_eq_true] at equal
      exact .error worded

theorem mapM_textOf_corresponds {first second : List Value} (equal : Value.sameItems first second)
    (shown : first.map Value.toText = second.map Value.toText) :
    Corresponds SameMessage Eq (first.mapM textOf) (second.mapM textOf) := by
  induction first generalizing second with
  | nil =>
      cases second with
      | nil => exact .ok rfl
      | cons other others => simp [Value.sameItems] at equal
  | cons item rest ih =>
      cases second with
      | nil => simp [Value.sameItems] at equal
      | cons other others =>
          simp only [Value.sameItems, Bool.and_eq_true] at equal
          rcases List.cons.inj shown with ⟨shown, restShown⟩
          rw [List.mapM_cons, List.mapM_cons]
          refine (textOf_corresponds equal.1 shown).bind ?_
          rintro text _ rfl
          refine (ih equal.2 restShown).bind ?_
          rintro texts _ rfl
          exact .ok rfl

theorem textsOf_corresponds {first second : Operand} (same : first.Same second)
    (shown : first.Shown second) :
    Corresponds SameMessage Eq (textsOf first) (textsOf second) := by
  rw [textsOf, textsOf, valuesOf, valuesOf, same.isNull]
  split
  · exact .error rfl
  · exact mapM_textOf_corresponds same.list shown.list

/-- An operator denotes conditions that hold of the same values, given equal operands. -/
theorem conditionOn_corresponds {first second : Operand} (same : first.Same second)
    (operator : Operator) (shown : operator.comparesText → first.Shown second) :
    Corresponds SameMessage Condition.Alike (operator.conditionOn first)
      (operator.conditionOn second) := by
  have order := Value.order_congr same.scalar
  have texts : operator.comparesText →
      Corresponds SameMessage Eq (textsOf first) (textsOf second) :=
    fun compares => textsOf_corresponds same (shown compares)
  have text : operator.comparesText →
      Corresponds SameMessage Eq (textOf first.scalar) (textOf second.scalar) :=
    fun compares => textOf_corresponds same.scalar (shown compares).scalar
  have equalTexts {α : Type} {make : α → Condition} {a b : α} (equal : a = b) :
      (make a).Alike (make b) := by
    rw [equal]
    exact .refl _
  cases operator with
  | equals | notEqual | above | aboveOrEqual | below | belowOrEqual =>
      refine .ok (.of_holdsOf fun value => ?_)
      simp only [Condition.holdsOf, Value.sameKey, order]
  | between => exact betweenOf_corresponds same.list
  | anyOf | noneOf =>
      refine (valuesOf_corresponds same).map fun equal => .of_holdsOf fun value => ?_
      simp only [Condition.holdsOf, Value.any_sameKey_congr equal value]
  | startsWith => exact (text rfl).map equalTexts
  | equalsIgnoreCase => exact (text rfl).map equalTexts
  | startsWithIgnoreCase => exact (text rfl).map equalTexts
  | startsWithAnyOf => exact (texts rfl).map equalTexts
  | anyOfIgnoreCase => exact (texts rfl).map equalTexts
  | startsWithAnyOfIgnoreCase => exact (texts rfl).map equalTexts

/-- Faults that are worded alike are the same error. -/
theorem condition_corresponds {first second : Operand} (operator : Operator)
    (corresponds : Corresponds SameMessage Condition.Alike (operator.conditionOn first)
      (operator.conditionOn second)) :
    Corresponds Eq Condition.Alike (operator.condition first) (operator.condition second) := by
  rw [condition, condition]
  generalize operator.conditionOn first = denoted at corresponds ⊢
  generalize operator.conditionOn second = other at corresponds ⊢
  cases corresponds with
  | ok alike => exact .ok alike
  | error alike => exact .error (congrArg (Error.invalidOperand operator.name) alike)

end Operator

/-- Whether an operator of a name compares texts. -/
def comparesText (name : String) : Bool :=
  (Operator.ofName? name).any Operator.comparesText

/-- Comparisons of one name with equal values denote conditions that hold of the same values. -/
theorem Condition.ofComparison_corresponds
    {first second : Option Value} (equal : Clause.sameValue? first second) (name : String)
    (shown : comparesText name → first.map Value.toText = second.map Value.toText) :
    Corresponds Eq Condition.Alike (ofComparison name first) (ofComparison name second) := by
  have known : Corresponds Eq (fun a b => a = b ∧ Operator.ofName? name = some a)
      (Operator.ofName name) (Operator.ofName name) := by
    rw [Operator.ofName]
    split
    · exact .ok ⟨rfl, by assumption⟩
    · exact .error rfl
  rw [ofComparison, ofComparison]
  refine known.bind ?_
  rintro operator _ ⟨rfl, named⟩
  apply Operator.condition_corresponds
  refine operator.conditionOn_corresponds (Operand.coerce_same equal) fun compares => ?_
  exact Operand.coerce_shown equal (shown (by simp [comparesText, named, compares]))

end LiveTable
