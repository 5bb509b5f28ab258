import LiveTable.Proofs.Query.Arguments

/-!
# Texts compared with texts

A text that looks like a number is made one before an operator on texts is applied to it, and
the operator is given the text in which messages show the number.  So it is given the text as it
stands if that looks like no number or is itself such a message text, and another one
otherwise: blanks, a plus sign, superfluous zeros, exponents and leads of bases are lost.
-/

set_option autoImplicit false

namespace LiveTable

open NumberText

/-- The text that an operator on texts is given for a text without a comma. -/
def Operand.shownText (text : String) : String :=
  ((readNumber? text.toList).map Value.toText).getD text

/-- The condition on a text that an operator on texts denotes. -/
def Operator.ofText? : Operator → Option (String → Condition)
  | .startsWith => some .startsWith
  | .equalsIgnoreCase => some .equalsIgnoreCase
  | .startsWithIgnoreCase => some .startsWithIgnoreCase
  | _ => none

/-! ## The characters of message texts -/

/-- A character of a number in positional notation. -/
def IsPositional (c : Char) : Prop :=
  isDigit c ∨ c = '-' ∨ c = '.'

theorem isPositional_of_mem_ofNat {n : Nat} {c : Char} (member : c ∈ Digits.ofNat n) :
    IsPositional c :=
  .inl (Digits.isDigit_of_mem_ofNat member)

theorem Decimal.isPositional_of_mem_positional {d : Decimal} {c : Char}
    (member : c ∈ d.positional) : IsPositional c := by
  have zeros {count : Nat} (member : c ∈ List.replicate count '0') : IsPositional c := by
    rw [List.eq_of_mem_replicate member]
    exact .inl rfl
  have digits (member : c ∈ d.digits) : IsPositional c := isPositional_of_mem_ofNat member
  rw [positional] at member
  split at member
  · rcases List.mem_append.mp member with front | member
    · rcases List.mem_append.mp front with lead | zero
      · simp only [List.mem_cons, List.not_mem_nil, or_false] at lead
        rcases lead with rfl | rfl
        · exact .inl rfl
        · exact .inr (.inr rfl)
      · exact zeros zero
    · exact digits member
  · split at member
    · exact (List.mem_append.mp member).elim digits zeros
    · rcases List.mem_append.mp member with front | member
      · rcases List.mem_append.mp front with whole | point
        · exact digits (List.mem_of_mem_take whole)
        · exact .inr (.inr (List.mem_singleton.mp point))
      · exact digits (List.mem_of_mem_drop member)

theorem Binary64.isPositional_of_mem_displayed {x : Binary64} (finite : x.isFinite) {c : Char}
    (member : c ∈ x.displayed) : IsPositional c := by
  have number : x.isNaN = false ∧ x.isInfinite = false := by
    have bits : x.exponentBits ≠ 2047 := by simpa [isFinite] using finite
    simp [isNaN, isInfinite, bits]
  have unsigned {text : List Char} (member : c ∈ x.withSign text) : c = '-' ∨ c ∈ text := by
    rw [withSign] at member
    split at member
    · exact List.mem_cons.mp member
    · exact .inr member
  rw [displayed, orSpecial, number.1, number.2, if_neg Bool.false_ne_true,
    if_neg Bool.false_ne_true] at member
  rcases unsigned member with minus | member
  · exact .inr (.inl minus)
  · split at member
    · exact .inl (List.mem_singleton.mp member ▸ rfl)
    · exact Decimal.isPositional_of_mem_positional member

namespace Operand

variable {text : String}

/-- The message text of what looks like a number is a number in positional notation. -/
theorem isPositional_of_readNumber? {value : Value}
    (looks : readNumber? text.toList = some value) : ∀ c ∈ value.toText.toList, IsPositional c := by
  intro c member
  rw [Value.toText, String.toList_ofList] at member
  rcases of_readNumber? looks with ⟨number, rfl⟩ | ⟨number, finite, rfl⟩
  · exact (isDigit_of_mem_ofInt member).imp_right .inl
  · exact Binary64.isPositional_of_mem_displayed finite member

/-- The message text of an integer of 64 bits looks like that integer. -/
theorem readNumber?_toText (number : Int64) :
    readNumber? (Value.integer number).toText.toList = some (.integer number) := by
  have written : (Value.integer number).toText.toList = [] ++ Digits.ofInt number.toInt ++ [] := by
    rw [Value.toText, String.toList_ofList, List.append_nil]
    rfl
  rw [written]
  exact readNumber?_padded number (List.forall_mem_nil _) (List.forall_mem_nil _)

/-- A text is shown as it stands if it looks like no number, or is the message text of one. -/
theorem shownText_eq_iff :
    shownText text = text ↔
      readNumber? text.toList = none ∨ (∃ number, text = (Value.integer number).toText) ∨
        ∃ number, readNumber? text.toList = some (.float number) ∧
          text = (Value.float number).toText := by
  rw [shownText]
  constructor
  · intro same
    cases looks : readNumber? text.toList with
    | none => exact .inl rfl
    | some value =>
        rw [looks] at same
        rcases of_readNumber? looks with ⟨number, rfl⟩ | ⟨number, _, rfl⟩
        · exact .inr (.inl ⟨number, same.symm⟩)
        · exact .inr (.inr ⟨number, rfl, same.symm⟩)
  · rintro (looksNot | ⟨number, rfl⟩ | ⟨number, looks, same⟩)
    · rw [looksNot]
      rfl
    · rw [readNumber?_toText]
      rfl
    · rw [looks]
      exact same.symm

/-- A text that looks like a number and is none in positional notation is shown differently. -/
theorem shownText_ne {c : Char} (member : c ∈ text.toList) (foreign : ¬ IsPositional c)
    (looks : (readNumber? text.toList).isSome) : shownText text ≠ text := by
  rcases Option.isSome_iff_exists.mp looks with ⟨value, looks⟩
  intro same
  rw [shownText, looks, Option.map_some, Option.getD_some] at same
  rw [← same] at member
  exact foreign (isPositional_of_readNumber? (same.symm ▸ looks) c member)

/-- A blank text is shown as zero. -/
theorem shownText_of_blank (blank : Text.trim text.toList = []) : shownText text = "0" := by
  have looks : readNumber? text.toList = some (.integer 0) := by
    simp only [readNumber?, blank, List.isEmpty_nil, if_true]
  rw [shownText, looks, Option.map_some, Option.getD_some]
  decide

end Operand

namespace Operator

theorem textOf_coerceText (text : String) :
    textOf (Operand.coerceText text.toList) = .ok (Operand.shownText text) := by
  rw [Operand.coerceText, Operand.shownText]
  cases looks : Operand.readNumber? text.toList with
  | none =>
      rw [Option.getD_none, String.ofList_toList]
      rfl
  | some value => rcases Operand.of_readNumber? looks with ⟨number, rfl⟩ | ⟨number, _, rfl⟩ <;> rfl

/-- The condition is on the text as it is shown. -/
theorem condition_of_text {operator : Operator} {make : String → Condition}
    (takes : operator.ofText? = some make) {text : String} (plain : ',' ∉ text.toList) :
    operator.condition (Operand.coerce (some (.string text))) =
      .ok (make (Operand.shownText text)) := by
  have scalar : (Operand.coerce (some (.string text))).scalar = Operand.coerceText text.toList := by
    rw [Operand.coerce_of_plain plain]
    rfl
  have denotes : operator.conditionOn (Operand.coerce (some (.string text))) =
      .ok (make (Operand.shownText text)) := by
    cases operator with
    | startsWith | equalsIgnoreCase | startsWithIgnoreCase =>
        rcases Option.some.inj takes with rfl
        rw [conditionOn, scalar, textOf_coerceText]
        rfl
    | _ => contradiction
  rw [condition, denotes]

theorem holds_startsWith_iff {start : String} {field? : Option Value} :
    (Condition.startsWith start).holds field? ↔
      ∃ found, field? = some (.string found) ∧ start.toList <+: found.toList := by
  cases field? with
  | none => simp [Condition.holds]
  | some value =>
      cases value <;> simp [Condition.holds, Condition.holdsOf, Value.isNull, Value.asString?]

/--
An operator on texts that is given a text without a comma denotes the condition on the text as it
is shown in messages, once it has been taken for a number where it looks like one.  That is the
text itself just where it looks like no number, is the decimal text of an integer of 64 bits, or
is the message text of the floating point number that it looks like.  Any other text that looks
like a number is replaced: a blank one by a zero, and always one that has another character than
digits, minus signs and points.  What begins with the text that is used are the texts of which
it is a prefix.
-/
theorem text_operators_use_shown_text {text : String} (plain : ',' ∉ text.toList) :
    (∀ (operator : Operator) (make : String → Condition), operator.ofText? = some make →
        operator.condition (Operand.coerce (some (.string text))) =
          .ok (make (Operand.shownText text))) ∧
      (Operand.shownText text = text ↔
        Operand.readNumber? text.toList = none ∨ (∃ number, text = (Value.integer number).toText) ∨
          ∃ number, Operand.readNumber? text.toList = some (.float number) ∧
            text = (Value.float number).toText) ∧
      ((∃ c ∈ text.toList, ¬ IsPositional c) → (Operand.readNumber? text.toList).isSome →
        Operand.shownText text ≠ text) ∧
      (Text.trim text.toList = [] → Operand.shownText text = "0") ∧
      ∀ field? : Option Value, (Condition.startsWith (Operand.shownText text)).holds field? ↔
        ∃ found, field? = some (.string found) ∧
          (Operand.shownText text).toList <+: found.toList := by
  refine ⟨fun _ _ takes => condition_of_text takes plain, Operand.shownText_eq_iff, ?_,
    Operand.shownText_of_blank, fun _ => holds_startsWith_iff⟩
  rintro ⟨c, member, foreign⟩ looks
  exact Operand.shownText_ne member foreign looks

/-- A text that is the message text of the number it looks like is used as it stands. -/
theorem text_operators_keep_message_text :
    startsWith.condition (Operand.coerce (some (.string "-2.5"))) = .ok (.startsWith "-2.5") ∧
      (Condition.startsWith "-2.5").holds (some (.string "-2.50")) := by
  have uses := @text_operators_use_shown_text "-2.5" (by decide)
  have shown : Operand.shownText "-2.5" = "-2.5" := by decide +kernel
  rw [shown] at uses
  exact ⟨uses.1 .startsWith _ rfl, (uses.2.2.2.2 _).mpr ⟨"-2.50", rfl, by decide⟩⟩

/--
Digits with zeros in front are replaced by others, and so is a text without characters: what
begins with the one does not begin with the other.
-/
theorem text_operators_lose_leading_zeros :
    startsWith.condition (Operand.coerce (some (.string "007"))) = .ok (.startsWith "7") ∧
      (Condition.startsWith "007").holds (some (.string "007")) = true ∧
      (Condition.startsWith "7").holds (some (.string "007")) = false ∧
      startsWith.condition (Operand.coerce (some (.string ""))) = .ok (.startsWith "0") ∧
      (Condition.startsWith "").holds (some (.string "a")) = true ∧
      (Condition.startsWith "0").holds (some (.string "a")) = false := by
  have shown : Operand.shownText "007" = "7" ∧ Operand.shownText "" = "0" := by decide +kernel
  have digits := @condition_of_text .startsWith _ rfl "007" (by decide)
  have nothing := @condition_of_text .startsWith _ rfl "" (by decide)
  rw [shown.1] at digits
  rw [shown.2] at nothing
  refine ⟨digits, ?_, ?_, nothing, ?_, ?_⟩ <;> decide

end Operator

end LiveTable
