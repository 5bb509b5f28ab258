import LiveTable.Proofs.Query.Numerals
import LiveTable.Query.Comparison
import Mathlib.Data.List.Forall2

/-!
# Arguments joined by commas

A text is taken for a number before it is split at its commas, and a text with one part is not
split at all.  For operators on lists and on bounds this makes no difference: what they are
given is the list of the parts, each coerced by itself, as if it were an array of these.  Parts
that are integers in decimal come to just these integers.
-/

set_option autoImplicit false

namespace LiveTable

namespace Operand

/-- What texts come to when they are joined by commas. -/
def joined (parts : List String) : Operand :=
  coerce (some (.string (",".intercalate parts)))

/-- What the array of the values comes to that texts give one by one. -/
def gathered (parts : List String) : Operand :=
  coerce (some (.array (parts.map fun part => (coerce (some (.string part))).scalar)))

/-- A part is the decimal text of an integer of 64 bits, between any blanks. -/
def Writes (part : String) (number : Int64) : Prop :=
  ∃ front back, (∀ c ∈ front, Text.isBlank c) ∧ (∀ c ∈ back, Text.isBlank c) ∧
    part.toList = front ++ Digits.ofInt number.toInt ++ back

variable {part : String} {parts : List String}

theorem coerceText_notNull (text : List Char) : (coerceText text).isNull = false := by
  rw [coerceText]
  cases looks : readNumber? text with
  | none => rfl
  | some value => rcases of_readNumber? looks with ⟨number, rfl⟩ | ⟨number, _, rfl⟩ <;> rfl

/-- A text without a comma is one argument. -/
theorem coerce_of_plain (plain : ',' ∉ part.toList) :
    coerce (some (.string part)) = .single (coerceText part.toList) := by
  have single : part.toList.contains ',' = false := by simpa using plain
  simp only [coerce, coerceText, single]
  cases readNumber? part.toList with
  | none => simp
  | some value => rfl

/-- Parts that are joined by commas are coerced one by one, be there one of them or more. -/
theorem joined_eq (some : parts ≠ []) (plain : ∀ part ∈ parts, ',' ∉ part.toList) :
    (joined parts).list = parts.map (coerceText ·.toList) ∧ (joined parts).isNull = false := by
  rw [joined]
  cases parts with
  | nil => contradiction
  | cons first rest =>
      cases rest with
      | nil =>
          rw [String.intercalate_singleton, coerce_of_plain (plain first List.mem_cons_self)]
          simp [list, isNull, coerceText_notNull]
      | cons second others =>
          have text : (",".intercalate (first :: second :: others)).toList =
              [','].intercalate ((first :: second :: others).map String.toList) :=
            String.toList_intercalate
          have comma : ',' ∈ (",".intercalate (first :: second :: others)).toList := by
            rw [text, List.map_cons, List.map_cons, List.intercalate_cons_cons]
            simp
          have pieces := @Text.splitAt_intercalate ','
            ((first :: second :: others).map String.toList)
            (List.forall_mem_map.mpr plain) (List.cons_ne_nil _ _)
          simp only [coerce, readNumber?_of_comma comma, List.contains_iff_mem.mpr comma, if_true]
          rw [text, pieces, List.map_map]
          exact ⟨rfl, rfl⟩

theorem list_gathered (plain : ∀ part ∈ parts, ',' ∉ part.toList) :
    (gathered parts).list = parts.map (coerceText ·.toList) :=
  List.map_congr_left fun part member =>
    congrArg scalar (coerce_of_plain (plain part member))

theorem Writes.plain {number : Int64} (writes : Writes part number) : ',' ∉ part.toList := by
  rcases writes with ⟨front, back, blankFront, blankBack, written⟩
  rw [written, List.mem_append, List.mem_append]
  rintro ((before | inside) | behind)
  · exact absurd (blankFront ',' before) (by decide)
  · exact absurd (isDigit_of_mem_ofInt inside) (by decide)
  · exact absurd (blankBack ',' behind) (by decide)

theorem Writes.coerceText {number : Int64} (writes : Writes part number) :
    coerceText part.toList = .integer number := by
  rcases writes with ⟨front, back, blankFront, blankBack, written⟩
  rw [Operand.coerceText, written, readNumber?_padded number blankFront blankBack]
  rfl

end Operand

namespace Operator

/-- Operators on lists and on bounds see nothing of an operand but its list, unless it is null. -/
theorem condition_congr {operator : Operator} (lists : operator.takesList ∨ operator = .between)
    {first second : Operand} (list : first.list = second.list)
    (null : first.isNull = second.isNull) : operator.condition first = operator.condition second := by
  have values : valuesOf first = valuesOf second := by rw [valuesOf, valuesOf, list, null]
  have texts : textsOf first = textsOf second := by rw [textsOf, textsOf, values]
  have same : operator.conditionOn first = operator.conditionOn second := by
    cases operator with
    | between => exact congrArg betweenOf list
    | anyOf | noneOf => exact congrArg (_ <$> ·) values
    | startsWithAnyOf | anyOfIgnoreCase | startsWithAnyOfIgnoreCase =>
        exact congrArg (_ <$> ·) texts
    | _ => exact absurd lists (by decide)
  rw [condition, condition, same]

/--
Any number of texts without commas, joined by commas, give an operator on lists or on bounds the
same condition or the same error as the array of the values that the texts give one by one.
Where each of them is the decimal text of an integer of 64 bits, with blanks around it or not,
the list that they give has just these integers, in this order.
-/
theorem joined_texts_as_array {parts : List String} (some : parts ≠ []) :
    ((∀ part ∈ parts, ',' ∉ part.toList) →
      ∀ operator : Operator, operator.takesList ∨ operator = .between →
        operator.condition (Operand.joined parts) = operator.condition (Operand.gathered parts)) ∧
      ∀ numbers, List.Forall₂ Operand.Writes parts numbers →
        (Operand.joined parts).list = numbers.map .integer := by
  constructor
  · intro plain operator lists
    have joined := Operand.joined_eq some plain
    exact condition_congr lists (joined.1.trans (Operand.list_gathered plain).symm) joined.2
  · intro numbers writes
    have plain : ∀ part ∈ parts, ',' ∉ part.toList := by
      clear some
      induction writes with
      | nil => exact List.forall_mem_nil _
      | cons first _ ih => exact List.forall_mem_cons.mpr ⟨first.plain, ih⟩
    rw [(Operand.joined_eq some plain).1]
    clear some plain
    induction writes with
    | nil => rfl
    | cons first _ ih => rw [List.map_cons, List.map_cons, first.coerceText, ih]

/-- The least and the greatest integer of 64 bits, with a blank behind and a tab before. -/
theorem joined_texts_as_array_at_limits :
    let parts := ["-9223372036854775808 ", "\t9223372036854775807"]
    (Operand.joined parts).list = [.integer Int64.minValue, .integer Int64.maxValue] ∧
      ∀ operator : Operator, operator.takesList ∨ operator = .between →
        operator.condition (Operand.joined parts) =
          operator.condition (Operand.gathered parts) := by
  intro parts
  have some : parts ≠ [] := List.cons_ne_nil _ _
  have plain : ∀ part ∈ parts, ',' ∉ part.toList := by decide
  have least : Operand.Writes "-9223372036854775808 " Int64.minValue :=
    ⟨[], [' '], List.forall_mem_nil _, List.forall_mem_singleton.mpr rfl, by decide +kernel⟩
  have greatest : Operand.Writes "\t9223372036854775807" Int64.maxValue :=
    ⟨['\t'], [], List.forall_mem_singleton.mpr rfl, List.forall_mem_nil _, by decide +kernel⟩
  have agree := joined_texts_as_array some
  exact ⟨agree.2 _ (.cons least (.cons greatest .nil)), agree.1 plain⟩

end Operator

end LiveTable
