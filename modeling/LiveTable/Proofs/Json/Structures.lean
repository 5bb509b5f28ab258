import LiveTable.Query.Interchange
import LiveTable.Proofs.Json.Values

/-!
# Structures read back

A structure is written as an object whose fields may be left out.  Its reader looks every
field up by name, so that it finds exactly the parts that were written, as long as no name
occurs twice.  What remains is one statement about each field: that its reader makes the
content again of what stands in its place, or of nothing.
-/

set_option autoImplicit false

namespace LiveTable.Json

/-- What is written for a field, which may be nothing, stands for what is in its place. -/
inductive DenotesPart (name : String) : List (String × List Char) → Option Tree → Prop
  | absent : DenotesPart name [] none
  | present {text : List Char} {tree : Tree} (denoted : Denotes text tree) :
    DenotesPart name [(name, text)] (some tree)

/-- The field of a part, if there is one. -/
def partField? (part : String × Option Tree) : Option (Content × Tree) :=
  part.2.map fun tree => (some part.1, tree)

/-- The fields of parts denote the object of the parts that are there. -/
theorem denotes_parts {written : List (List (String × List Char))}
    {parts : List (String × Option Tree)}
    (denoted : List.Forall₂ (fun fields part => DenotesPart part.1 fields part.2) written parts) :
    Denotes (writtenObject written.flatten) (.object (parts.filterMap partField?)) := by
  apply denotes_object
  induction denoted with
  | nil => exact .nil
  | @cons fields part written parts first _ ih =>
      rcases part with ⟨name, tree?⟩
      cases first with
      | absent => exact ih
      | present denoted => exact .cons ⟨rfl, denoted⟩ ih

/-! ## Looking parts up -/

theorem name_of_mem_parts {parts : List (String × Option Tree)} {field : Content × Tree}
    (member : field ∈ parts.filterMap partField?) : ∃ part ∈ parts, field.1 = some part.1 := by
  rcases List.mem_filterMap.mp member with ⟨part, found, present⟩
  rcases Option.map_eq_some_iff.mp present with ⟨tree, -, rfl⟩
  exact ⟨part, found, rfl⟩

/-- A name that no part has is the name of no field. -/
theorem filter_parts_of_absent {parts : List (String × Option Tree)} {name : String}
    (absent : ∀ part ∈ parts, part.1 ≠ name) :
    (parts.filterMap partField?).filter (·.1 = some name) = [] := by
  rw [List.filter_eq_nil_iff]
  intro field member same
  rcases name_of_mem_parts member with ⟨part, found, named⟩
  rw [named, decide_eq_true_eq] at same
  exact absent part found (Option.some.inj same)

/-- Where the names of parts differ, a name has the field of its part and no other. -/
theorem filter_parts {parts : List (String × Option Tree)}
    (distinct : (parts.map Prod.fst).Nodup) {part : String × Option Tree}
    (member : part ∈ parts) :
    (parts.filterMap partField?).filter (·.1 = some part.1) = (partField? part).toList := by
  induction parts with
  | nil => contradiction
  | cons head rest ih =>
      rcases List.nodup_cons.mp distinct with ⟨fresh, others⟩
      rw [← List.singleton_append, List.filterMap_append, List.filter_append]
      rcases List.mem_cons.mp member with rfl | later
      · have absent : ∀ other ∈ rest, other.1 ≠ part.1 := fun other found same =>
          fresh (same ▸ List.mem_map_of_mem found)
        rw [filter_parts_of_absent absent, List.append_nil]
        cases present : part.2 <;> simp [partField?, present]
      · have absent : ∀ other ∈ [head], other.1 ≠ part.1 := by
          intro other found same
          rw [List.mem_singleton.mp found] at same
          exact fresh (same ▸ List.mem_map_of_mem later)
        rw [filter_parts_of_absent absent, List.nil_append]
        exact ih others later

theorem mapM_of_forall {α β : Type} {find : α → Option β} {keys : List α} {found : List β}
    (each : List.Forall₂ (fun key content => find key = some content) keys found) :
    keys.mapM find = some found := by
  induction each with
  | nil => rfl
  | cons first _ ih => simp [List.mapM_cons, first, ih]

/-- The parts of an object of fields are found again. -/
theorem structureParts?_parts {parts : List (String × Option Tree)}
    (distinct : (parts.map Prod.fst).Nodup) :
    structureParts? (parts.map Prod.fst) (.object (parts.filterMap partField?)) =
      some (parts.map Prod.snd) := by
  have named : (parts.filterMap partField?).all (·.1.isSome) := by
    rw [List.all_eq_true]
    intro field member
    rcases name_of_mem_parts member with ⟨part, -, name⟩
    rw [name]
    rfl
  rw [structureParts?, if_pos named]
  apply mapM_of_forall
  rw [List.forall₂_map_left_iff, List.forall₂_map_right_iff, List.forall₂_same]
  intro part member
  rw [filter_parts distinct member]
  rcases part with ⟨name, _ | tree⟩ <;> rfl

/-- A written structure denotes a tree in which its parts are found by their names. -/
theorem denotes_structure (names : List String) (parts : List (String × Option Tree))
    (distinct : names.Nodup) {written : List (List (String × List Char))}
    (denoted : List.Forall₂ (fun fields part => DenotesPart part.1 fields part.2) written parts)
    (named : parts.map Prod.fst = names) :
    ∃ tree, Denotes (writtenObject written.flatten) tree ∧
      structureParts? names tree = some (parts.map Prod.snd) := by
  subst named
  exact ⟨_, denotes_parts denoted, structureParts?_parts distinct⟩

/-! ## Contents of parts -/

/-- What is written for a field is read as its content. -/
def ConveysPart {α : Type} (name : String) (read : Option Tree → Option α)
    (fields : List (String × List Char)) (content : α) : Prop :=
  ∃ tree?, DenotesPart name fields tree? ∧ read tree? = some content

theorem conveys_field {α : Type} {name : String} {read : Tree → Option α} {default content : α}
    {text : List Char} {tree : Tree} (denoted : Denotes text tree)
    (reads : read tree = some content) :
    ConveysPart name (readPart? read default) [(name, text)] content :=
  ⟨some tree, .present denoted, reads⟩

theorem conveys_flag (name : String) (default flag : Bool) :
    ConveysPart name (readPart? readFlag? default) [(name, writtenFlag flag)] flag :=
  conveys_field (denotes_flag flag) rfl

theorem conveys_string (name default text : String) :
    ConveysPart name (readPart? readString? default) [(name, writtenString text)] text :=
  conveys_field (denotes_string text) rfl

/-- A field that is written where it is there conveys what its content is read as. -/
theorem conveys_optional {α : Type} {name : String} {read : Tree → Option α}
    {write : α → List Char} {content? found? : Option α}
    (present : ∀ content, content? = some content →
      ∃ tree, Denotes (write content) tree ∧ readOptional? read tree = some found?)
    (absent : content? = none → found? = none) :
    ConveysPart name (readPart? (readOptional? read) none)
      (writtenOptional name write content?) found? := by
  cases content? with
  | none =>
      rw [absent rfl]
      exact ⟨none, .absent, rfl⟩
  | some content =>
      rcases present content rfl with ⟨tree, denoted, reads⟩
      exact ⟨some tree, .present denoted, reads⟩

theorem conveys_optional_string (name : String) (text? : Option String) :
    ConveysPart name (readPart? (readOptional? readString?) none)
      (writtenOptional name writtenString text?) text? := by
  refine conveys_optional (fun text present => ?_) id
  exact ⟨_, denotes_string text, by rw [present]; rfl⟩

theorem conveys_optional_nat (name : String) {number? : Option Nat}
    (bounded : ∀ number, number? = some number → number < wordLimit) :
    ConveysPart name (readPart? (readOptional? readNat?) none)
      (writtenOptional name writtenNat number?) number? := by
  refine conveys_optional (fun number present => ?_) id
  have denoted := denotes_numeral (readNumeral?_ofInt number)
  refine ⟨_, denoted, ?_⟩
  have small := bounded number present
  simp [readOptional?, readNat?, Numeral.toWord?, Numeral.isInteger, Digits.toNat_ofNat, small,
    present]

/-- A value other than null is read as one that is there. -/
theorem readOptional?_value {depth : Nat} {tree : Tree} {value : Value}
    (read : readValue? depth tree = some value) (there : value.isNull = false) :
    readOptional? (readValue? depth) tree = some (some value) := by
  cases tree with
  | null =>
      cases read
      contradiction
  | _ =>
      simp [readOptional?, read]

/-- Null is read as if it had been left out. -/
theorem conveys_optional_value (name : String) {depth : Nat} {value? : Option Value}
    (each : ∀ value, value? = some value → Conveys depth (writtenValue value) value) :
    ConveysPart name (readPart? (readOptional? (readValue? depth)) none)
      (writtenOptional name writtenValue value?) (value?.filter (!·.isNull)) := by
  refine conveys_optional (fun value present => ?_) ?_
  · rw [present]
    cases null : value.isNull with
    | true =>
        cases value <;> try contradiction
        exact ⟨.null, denotes_null, rfl⟩
    | false =>
        rcases each value present with ⟨tree, denoted, read⟩
        refine ⟨tree, denoted, ?_⟩
        rw [readOptional?_value read null, Option.filter_some_pos (by rw [null]; rfl)]
  · rintro rfl
    rfl

end LiveTable.Json
