import LiveTable.Proofs.Query.Texts

/-!
# Starts compared without case

A text and what it may start with are put in lower case apart from each other.  All characters but
one are mapped by themselves, so that the lower case of a start is a start of the lower case.  The
one is the capital sigma: at the end of a word it becomes a final sigma, and a start may end in the
middle of a word.  So a text that begins with a start begins with it without regard to case just if
the start does not cut a word of the text right after a capital sigma, passing over what case
ignores.
-/

set_option autoImplicit false

namespace LiveTable

namespace Text

/-! ## Capital sigmas at the end of a word -/

/--
A text ends in the last letter of a word, a capital sigma, given the characters before the text in
reverse.  A cased character comes before the sigma, and after it only what case ignores.
-/
def EndsInSigma (earlier text : List Char) : Prop :=
  ∃ before after, text = before ++ 'Σ' :: after ∧ meetsCased (before.reverse ++ earlier) ∧
    ∀ c ∈ after, inRanges caseIgnorableRanges c

/-- A start ends in the last letter of a word, a capital sigma, and in the text the word goes on. -/
def CutsWord (start text : List Char) : Prop :=
  EndsInSigma [] start ∧ meetsCased (text.drop start.length)

variable {earlier start rest : List Char} {c : Char}

theorem not_endsInSigma_nil : ¬ EndsInSigma earlier [] := by
  rintro ⟨before, after, text, _⟩
  exact absurd text.symm (List.append_ne_nil_of_right_ne_nil _ (List.cons_ne_nil _ _))

theorem endsInSigma_cons :
    EndsInSigma earlier (c :: start) ↔
      c = 'Σ' ∧ meetsCased earlier ∧ (∀ d ∈ start, inRanges caseIgnorableRanges d) ∨
        EndsInSigma (c :: earlier) start := by
  constructor
  · rintro ⟨before, after, text, cased, ignored⟩
    cases before with
    | nil =>
        rcases List.cons.inj text with ⟨rfl, rfl⟩
        exact .inl ⟨rfl, cased, ignored⟩
    | cons first before =>
        rcases List.cons.inj text with ⟨rfl, rfl⟩
        refine .inr ⟨before, after, rfl, ?_, ignored⟩
        simpa using cased
  · rintro (⟨rfl, cased, ignored⟩ | ⟨before, after, rfl, cased, ignored⟩)
    · exact ⟨[], start, rfl, cased, ignored⟩
    · refine ⟨c :: before, after, rfl, ?_, ignored⟩
      simpa using cased

theorem mem_of_endsInSigma (ends : EndsInSigma earlier start) : 'Σ' ∈ start := by
  rcases ends with ⟨before, after, rfl, _⟩
  exact List.mem_append_right _ List.mem_cons_self

/-! ## The lower case of a start -/

theorem meetsCased_append_of_ignored (ignored : ∀ c ∈ start, inRanges caseIgnorableRanges c) :
    meetsCased (start ++ rest) = meetsCased rest := by
  rw [meetsCased, List.dropWhile_append_of_pos ignored, ← meetsCased]

theorem meetsCased_of_ignored (ignored : ∀ c ∈ start, inRanges caseIgnorableRanges c) :
    meetsCased start = false := by
  rw [← List.append_nil start, meetsCased_append_of_ignored ignored]
  rfl

theorem meetsCased_append_of_not (some : ¬ ∀ c ∈ start, inRanges caseIgnorableRanges c) :
    meetsCased (start ++ rest) = meetsCased start := by
  have left : start.dropWhile (inRanges caseIgnorableRanges) ≠ [] :=
    fun none => some (List.dropWhile_eq_nil_iff.mp none)
  rw [meetsCased, meetsCased, List.dropWhile_append, if_neg (by simpa using left)]
  cases found : start.dropWhile (inRanges caseIgnorableRanges) with
  | nil => exact absurd found left
  | cons c others => rfl

/-- More text after a sigma makes a difference just where a word seemed to end and goes on. -/
theorem lowerSigma_eq_iff :
    lowerSigma earlier start = lowerSigma earlier (start ++ rest) ↔
      ¬ ((meetsCased earlier ∧ ∀ c ∈ start, inRanges caseIgnorableRanges c) ∧ meetsCased rest) := by
  by_cases ignored : ∀ c ∈ start, inRanges caseIgnorableRanges c
  · rw [lowerSigma, lowerSigma, meetsCased_append_of_ignored ignored, meetsCased_of_ignored ignored,
      and_iff_left ignored]
    cases meetsCased earlier <;> cases meetsCased rest <;> simp
  · rw [lowerSigma, lowerSigma, meetsCased_append_of_not ignored]
    simp [ignored]

theorem lowerAfter_prefix_iff :
    lowerAfter earlier start <+: lowerAfter earlier (start ++ rest) ↔
      ¬ (EndsInSigma earlier start ∧ meetsCased rest) := by
  induction start generalizing earlier with
  | nil => simp [lowerAfter, not_endsInSigma_nil]
  | cons c start ih =>
      rw [List.cons_append, lowerAfter, lowerAfter, endsInSigma_cons]
      by_cases sigma : c = 'Σ'
      · rw [if_pos sigma, if_pos sigma, List.singleton_append, List.singleton_append,
          List.cons_prefix_cons, ih, lowerSigma_eq_iff]
        tauto
      · rw [if_neg sigma, if_neg sigma, List.prefix_append_right_inj, ih]
        simp only [sigma, false_and, false_or]

/-- The lower case of a text begins with that of a start of it unless the start cuts a word. -/
theorem lowercase_prefix_iff {text : List Char} (begins : start <+: text) :
    lowercase start <+: lowercase text ↔ ¬ CutsWord start text := by
  rcases begins with ⟨rest, rfl⟩
  rw [lowercase, lowercase, lowerAfter_prefix_iff, CutsWord, List.drop_left]

end Text

namespace Condition

/-! ## Conditions on starts -/

variable {field? : Option Value}

/-- A condition that is asked about the text of a value holds of texts only. -/
theorem holds_of_text_iff {condition : Condition} {test : String → Bool}
    (asks : ∀ value, condition.holdsOf value = value.asString?.any test) :
    condition.holds field? ↔ ∃ found, field? = some (.string found) ∧ test found := by
  cases field? with
  | none => simp [holds]
  | some value => cases value <;> simp [holds, asks, Value.isNull, Value.asString?]

theorem holds_startsWithIgnoreCase_iff {start : String} :
    (startsWithIgnoreCase start).holds field? ↔
      ∃ found, field? = some (.string found) ∧ folded start <+: folded found := by
  refine Iff.trans (holds_of_text_iff fun _ => rfl) ?_
  simp only [List.isPrefixOf_iff_prefix]

/-- A condition that asks one question about several texts holds where it does of one of them. -/
theorem holds_of_any_iff {condition : Condition} {each : String → Condition}
    {test : String → String → Bool} {texts : List String}
    (asks : ∀ value, condition.holdsOf value =
      value.asString?.any fun found => texts.any (test · found))
    (asksEach : ∀ text value, (each text).holdsOf value = value.asString?.any (test text)) :
    condition.holds field? ↔ ∃ text ∈ texts, (each text).holds field? := by
  have single (text : String) : (each text).holds field? ↔
      ∃ found, field? = some (.string found) ∧ test text found := holds_of_text_iff (asksEach text)
  simp only [holds_of_text_iff asks, single, List.any_eq_true]
  exact ⟨fun ⟨found, same, text, listed, passes⟩ => ⟨text, listed, found, same, passes⟩,
    fun ⟨text, listed, found, same, passes⟩ => ⟨found, same, text, listed, passes⟩⟩

theorem holds_startsWithAnyOf_iff {starts : List String} :
    (startsWithAnyOf starts).holds field? ↔
      ∃ start ∈ starts, (startsWith start).holds field? :=
  holds_of_any_iff (fun _ => rfl) fun _ _ => rfl

theorem holds_startsWithAnyOfIgnoreCase_iff {starts : List String} :
    (startsWithAnyOfIgnoreCase starts).holds field? ↔
      ∃ start ∈ starts, (startsWithIgnoreCase start).holds field? :=
  holds_of_any_iff (fun _ => rfl) fun _ _ => rfl

/-- A start cuts a word of a text in a field. -/
def CutsWord (start : String) (field? : Option Value) : Prop :=
  ∃ found, field? = some (.string found) ∧ Text.CutsWord start.toList found.toList

theorem holds_ignoring_case_iff {start : String} (begins : (startsWith start).holds field?) :
    (startsWithIgnoreCase start).holds field? ↔ ¬ CutsWord start field? := by
  rcases Operator.holds_startsWith_iff.mp begins with ⟨found, rfl, leads⟩
  simp only [holds_startsWithIgnoreCase_iff, CutsWord, Option.some.injEq, Value.string.injEq,
    exists_eq_left']
  exact Text.lowercase_prefix_iff leads

/--
A field that begins with a start begins with it also without regard to case, unless the start cuts
a word of the field after a capital sigma; then it does not.  A field that begins with one of
several starts begins with one of them also without regard to case, unless one of them cuts a
word so, and so does every other that the field begins with.  A start without a capital sigma
never does.
-/
theorem ignoring_case_widens (field? : Option Value) :
    (∀ start, (startsWith start).holds field? →
        ((startsWithIgnoreCase start).holds field? ↔ ¬ CutsWord start field?)) ∧
      (∀ starts, (startsWithAnyOf starts).holds field? →
        (startsWithAnyOfIgnoreCase starts).holds field? ∨
          (∃ start ∈ starts, CutsWord start field?) ∧
            ∀ start ∈ starts, (startsWith start).holds field? → CutsWord start field?) ∧
      ∀ start : String, 'Σ' ∉ start.toList → ¬ CutsWord start field? := by
  refine ⟨fun _ => holds_ignoring_case_iff, fun starts begun => ?_, fun start absent cuts => ?_⟩
  · by_cases widened : (startsWithAnyOfIgnoreCase starts).holds field?
    · exact .inl widened
    · have cut : ∀ start ∈ starts, (startsWith start).holds field? → CutsWord start field? := by
        refine fun start listed begins => by_contra fun whole => widened ?_
        exact holds_startsWithAnyOfIgnoreCase_iff.mpr
          ⟨start, listed, (holds_ignoring_case_iff begins).mpr whole⟩
      rcases holds_startsWithAnyOf_iff.mp begun with ⟨start, listed, begins⟩
      exact .inr ⟨⟨start, listed, cut start listed begins⟩, cut⟩
  · rcases cuts with ⟨_, _, ends, _⟩
    exact absent (Text.mem_of_endsInSigma ends)

/-- A sigma at the end of a word of the field is a final one in the start too. -/
theorem ignoring_case_widens_at_end_of_word :
    (startsWith "ΟΔΟΣ").holds (some (.string "ΟΔΟΣ, Α")) ∧
      (startsWithIgnoreCase "ΟΔΟΣ").holds (some (.string "ΟΔΟΣ, Α")) ∧
      (startsWithAnyOfIgnoreCase ["Β", "ΟΔΟΣ"]).holds (some (.string "ΟΔΟΣ, Α")) := by
  have begins : (startsWith "ΟΔΟΣ").holds (some (.string "ΟΔΟΣ, Α")) := by decide +kernel
  have begun : (startsWithAnyOf ["Β", "ΟΔΟΣ"]).holds (some (.string "ΟΔΟΣ, Α")) := by
    decide +kernel
  have whole : ¬ CutsWord "ΟΔΟΣ" (some (.string "ΟΔΟΣ, Α")) := by
    rintro ⟨_, ⟨⟩, _, onwards⟩
    exact absurd onwards (by decide +kernel)
  rcases ignoring_case_widens (some (.string "ΟΔΟΣ, Α")) with ⟨one, several, _⟩
  refine ⟨begins, (one _ begins).mpr whole, (several _ begun).resolve_right fun cut => ?_⟩
  exact whole (cut.2 "ΟΔΟΣ" (List.mem_cons_of_mem _ List.mem_cons_self) begins)

/-- A start that ends in a capital sigma is lost where the word goes on after it. -/
theorem ignoring_case_narrows_within_word :
    (startsWith "ΟΔΟΣ").holds (some (.string "ΟΔΟΣΗΜΟ")) = true ∧
      (startsWithIgnoreCase "ΟΔΟΣ").holds (some (.string "ΟΔΟΣΗΜΟ")) = false ∧
      (startsWithAnyOf ["ΟΔΟΣ"]).holds (some (.string "ΟΔΟΣΗΜΟ")) = true ∧
      (startsWithAnyOfIgnoreCase ["ΟΔΟΣ"]).holds (some (.string "ΟΔΟΣΗΜΟ")) = false := by
  decide +kernel

end Condition

end LiveTable
