import LiveTable.Proofs.OrderedMap
import LiveTable.Proofs.Value.TotalOrder
import LiveTable.Table.Collection
import Mathlib.Data.List.Basic

/-!
# What a collection selects

A collection is evaluated on a whole table, by two different paths.  This file shows
that both come to one evaluation of each record by itself: a verdict that starts
undefined, that a match step widens and that a filter step narrows.

`Collection.Selected` ties the rows that some steps have selected to the verdicts of
those steps; every step keeps it.
-/

set_option autoImplicit false

namespace LiveTable

/-- The running value of an evaluation, undefined until a step says something. -/
abbrev Verdict := Option Bool

namespace Verdict

/-- One more way of being selected. -/
def widen (verdict : Verdict) (holds : Bool) : Verdict :=
  some (verdict.getD false || holds)

/-- One more condition to fulfil. -/
def narrow (verdict : Verdict) (holds : Bool) : Verdict :=
  some (verdict.getD true && holds)

/-- Whether a verdict lets a record in; an undefined one does. -/
def admits (verdict : Verdict) : Bool :=
  verdict.getD true

end Verdict

/-- What a step makes of the verdict on a record. -/
def Step.judge (record : Record) (verdict : Verdict) : Step → Verdict
  | .select field condition => verdict.widen (condition.holds (record.getPath? field))
  | .keep test => verdict.narrow (test record)

/-- What steps make of the verdict on a record, one after the other. -/
def Step.judgeAll (steps : List Step) (record : Record) (verdict : Verdict) : Verdict :=
  steps.foldl (Step.judge record) verdict

namespace Collection

variable {table : Table}

/-! ## Selecting step by step -/

/-- What is selected so far is what the verdicts so far let in. -/
inductive Selected (table : Table) : Option Rows → (Record → Verdict) → Prop where
  | undefined : Selected table none fun _ => none
  | rows {rows : Rows} {holds : Record → Bool}
      (ascending : rows.Ascending)
      (members : ∀ row, row ∈ rows.entries ↔ row ∈ table.scan ∧ holds row.2 = true) :
      Selected table (some rows) fun record => some (holds record)

theorem Selected.select
    (ascending : table.rows.Ascending) {rows : Rows} {holds : Record → Bool}
    (rowsAscending : rows.Ascending)
    (members : ∀ row, row ∈ rows.entries ↔ row ∈ table.scan ∧ holds row.2 = true)
    (field : String) (condition : Condition) :
    Selected table (advance table (some rows) (.select field condition)) fun record =>
      some (holds record || condition.holds (record.getPath? field)) := by
  let found := table.scan.filter fun row => condition.holds (row.2.getPath? field)
  have foundPart : ∀ row ∈ found, row ∈ table.scan :=
    fun row member => (List.mem_filter.mp member).1
  obtain ⟨joinedAscending, joined⟩ :=
    ascending.mem_foldl_insert foundPart rowsAscending
      (fun row member => ((members row).mp member).1)
  refine .rows joinedAscending ?_
  intro row
  have isFound :
      row ∈ found ↔ row ∈ table.scan ∧ condition.holds (row.2.getPath? field) = true :=
    List.mem_filter
  refine (joined row).trans ?_
  rw [members row, isFound, Bool.or_eq_true, and_or_left]

theorem Selected.keep
    {rows : Rows} {holds : Record → Bool} (rowsAscending : rows.Ascending)
    (members : ∀ row, row ∈ rows.entries ↔ row ∈ table.scan ∧ holds row.2 = true)
    (test : Record → Bool) :
    Selected table (advance table (some rows) (.keep test)) fun record =>
      some (holds record && test record) := by
  refine .rows (rowsAscending.filter _) ?_
  intro row
  rw [OrderedMap.filter, List.mem_filter]
  simp [members row, and_assoc]

/-- One step keeps the selected rows and the verdicts together. -/
theorem Selected.advance
    (ascending : table.rows.Ascending)
    {selected? : Option Rows} {verdict : Record → Verdict}
    (selected : Selected table selected? verdict) (step : Step) :
    Selected table (Collection.advance table selected? step) fun record =>
      step.judge record (verdict record) := by
  cases selected with
  | rows rowsAscending members =>
      cases step with
      | select field condition => exact .select ascending rowsAscending members field condition
      | keep test => exact .keep rowsAscending members test
  | undefined =>
      cases step with
      | select field condition =>
          have nothing :
              ∀ row, row ∈ (OrderedMap.empty : Rows).entries ↔
                row ∈ table.scan ∧ (fun _ => false) row.2 = true := by
            simp [OrderedMap.empty]
          exact .select ascending OrderedMap.empty_ascending nothing field condition
      | keep test =>
          have everything :
              ∀ row, row ∈ table.rows.entries ↔
                row ∈ table.scan ∧ (fun _ => true) row.2 = true := by
            simp [Table.scan]
          exact .keep ascending everything test

/-- Any number of steps keep the selected rows and the verdicts together. -/
theorem Selected.advanceAll
    (ascending : table.rows.Ascending)
    {selected? : Option Rows} {verdict : Record → Verdict}
    (selected : Selected table selected? verdict) (steps : List Step) :
    Selected table (steps.foldl (Collection.advance table) selected?) fun record =>
      Step.judgeAll steps record (verdict record) := by
  induction steps generalizing selected? verdict with
  | nil => exact selected
  | cons step rest ih => exact ih (selected.advance ascending step)

/-- Once rows are selected, they are those that the verdicts let in. -/
theorem Selected.members
    {rows : Rows} {verdict : Record → Verdict} (selected : Selected table (some rows) verdict) :
    rows.Ascending ∧
      ∀ row, row ∈ rows.entries ↔ row ∈ table.scan ∧ (verdict row.2).admits = true := by
  cases selected with
  | rows ascending members => exact ⟨ascending, members⟩

theorem advance_isSome (table : Table) (selected? : Option Rows) (step : Step) :
    (advance table selected? step).isSome := by
  cases step <;> rfl

/-- Once a step has been taken rows are selected, if only none of them. -/
theorem foldl_advance_isSome (table : Table) {steps : List Step} (taken : steps ≠ []) :
    (steps.foldl (advance table) none).isSome := by
  rcases (List.eq_nil_or_concat' steps).resolve_left taken with ⟨early, last, rfl⟩
  rw [List.foldl_append]
  exact advance_isSome table _ last

/-- The rows that steps select. -/
def selectedBy (table : Table) (steps : List Step) : Rows :=
  (steps.foldl (advance table) none).getD .empty

theorem selectedBy_members
    (ascending : table.rows.Ascending) {steps : List Step} (taken : steps ≠ []) :
    (selectedBy table steps).Ascending ∧
      ∀ row, row ∈ (selectedBy table steps).entries ↔
        row ∈ table.scan ∧ (Step.judgeAll steps row.2 none).admits = true := by
  have selected := Selected.undefined.advanceAll ascending steps
  rcases Option.isSome_iff_exists.mp (foldl_advance_isSome table taken) with ⟨rows, reached⟩
  rw [reached] at selected
  rw [selectedBy, reached]
  exact selected.members

/-! ## Filtering a scan -/

/-- Without a match among them, steps let in what all their tests accept. -/
theorem judgeAll_of_filters
    {steps : List Step} (filters : steps.any isSelect = false) (record : Record)
    (verdict : Verdict) :
    (Step.judgeAll steps record verdict).admits = (verdict.admits && accepts steps record) := by
  induction steps generalizing verdict with
  | nil => simp [Step.judgeAll, accepts]
  | cons step rest ih =>
      obtain ⟨notSelect, restFilters⟩ := by
        simpa [List.any_cons, Bool.or_eq_false_iff] using filters
      cases step with
      | select field condition => simp [isSelect] at notSelect
      | keep test =>
          have onwards := ih (by simpa using restFilters) (verdict.narrow (test record))
          rw [Step.judgeAll] at onwards ⊢
          rw [List.foldl_cons, Step.judge, onwards]
          simp [accepts, Verdict.admits, Verdict.narrow, Bool.and_assoc]

/-- Whether the scan that is filtered where no step selects reads a record. -/
def scans (collection : Collection) (schema : TableSchema) (record : Record) : Bool :=
  match collection.order? with
  | some field => field = schema.primaryKey || (Table.indexed? record field).isSome
  | none => true

theorem sortedBy_perm (field : String) (rows : List (Value × Record)) :
    (Table.sortedBy field rows).Perm rows :=
  List.mergeSort_perm rows _

theorem scanBy_perm (table : Table) (field : String) :
    (table.scanBy field).Perm (table.scan.filter fun row =>
      field = table.schema.primaryKey || (Table.indexed? row.2 field).isSome) := by
  rw [Table.scanBy]
  split
  · next primary => simp [primary]
  · next other => simpa [other] using sortedBy_perm field _

theorem scanned_perm (collection : Collection) (table : Table) :
    (match collection.order? with
      | some field => table.scanBy field
      | none => table.scan).Perm
      (table.scan.filter fun row => collection.scans table.schema row.2) := by
  cases order : collection.order? with
  | some field => simpa [scans, order] using scanBy_perm table field
  | none => simp [scans, order]

/-! ## Both paths -/

/-- Whether a collection lets a record in, judged by itself. -/
def admits (collection : Collection) (schema : TableSchema) (record : Record) : Bool :=
  (Step.judgeAll collection.steps record none).admits &&
    (collection.steps.any isSelect || collection.scans schema record)

/-- The selected rows, in some order, are those that the collection lets in, each once. -/
theorem ordered_perm (ascending : table.rows.Ascending) (collection : Collection) :
    ∃ chosen : Rows, chosen.Ascending ∧ (collection.ordered table).Perm chosen.entries ∧
      ∀ row, row ∈ chosen.entries ↔
        row ∈ table.scan ∧ collection.admits table.schema row.2 = true := by
  cases selects : collection.steps.any isSelect with
  | true =>
      have taken : collection.steps ≠ [] := by
        intro none
        simp [none] at selects
      rcases selectedBy_members ascending taken with ⟨chosenAscending, members⟩
      refine ⟨selectedBy table collection.steps, chosenAscending, ?_, ?_⟩
      · rw [ordered, if_pos selects]
        dsimp only
        split
        · split
          · exact .refl _
          · exact sortedBy_perm _ _
        · exact .refl _
      · simpa [admits, selects] using members
  | false =>
      let chosen := table.rows.filter fun _ record =>
        accepts collection.steps record && collection.scans table.schema record
      refine ⟨chosen, ascending.filter _, ?_, ?_⟩
      · rw [ordered, if_neg (by simp [selects])]
        refine ((scanned_perm collection table).filter _).trans ?_
        rw [List.filter_filter]
        exact .refl _
      · intro row
        have filters : (Step.judgeAll collection.steps row.2 none).admits =
            accepts collection.steps row.2 := judgeAll_of_filters selects row.2 none
        rw [admits, selects, filters]
        simp [chosen, OrderedMap.filter, Table.scan]

/-- A row is selected if it is a row of the table whose record the collection lets in. -/
theorem mem_ordered
    (ascending : table.rows.Ascending) (collection : Collection) (row : Value × Record) :
    row ∈ collection.ordered table ↔
      row ∈ table.scan ∧ collection.admits table.schema row.2 = true := by
  rcases ordered_perm ascending collection with ⟨chosen, _, perm, members⟩
  rw [perm.mem_iff, members row]

theorem apart_of_ascending {rows : Rows} (ascending : rows.Ascending) :
    rows.entries.Pairwise fun first second => first.1.sameKey second.1 = false := by
  refine ascending.imp ?_
  intro first second before
  have below : first.1.order second.1 = .lt := before
  simp [Value.sameKey, below]

/-- No two selected rows are stored under one key. -/
theorem ordered_apart (ascending : table.rows.Ascending) (collection : Collection) :
    (collection.ordered table).Pairwise fun first second =>
      first.1.sameKey second.1 = false := by
  rcases ordered_perm ascending collection with ⟨chosen, chosenAscending, perm, _⟩
  refine (perm.pairwise_iff ?_).mpr (apart_of_ascending chosenAscending)
  intro first second different
  rwa [Value.sameKey_comm]

/-! ## Direction and window -/

/-- The window leaves out some of the selected rows and keeps the others in a direction. -/
theorem rows_sublist (collection : Collection) (table : Table) :
    ∃ directed : List (Value × Record),
      directed.Perm (collection.ordered table) ∧ (collection.rows table).Sublist directed := by
  refine ⟨if collection.reversed then (collection.ordered table).reverse
    else collection.ordered table, ?_, ?_⟩
  · split
    · exact List.reverse_perm _
    · exact .refl _
  · rw [rows]
    split
    · exact (List.take_sublist _ _).trans (List.drop_sublist _ _)
    · exact List.drop_sublist _ _

theorem rows_apart (ascending : table.rows.Ascending) (collection : Collection) :
    (collection.rows table).Pairwise fun first second =>
      first.1.sameKey second.1 = false := by
  rcases rows_sublist collection table with ⟨directed, perm, window⟩
  have apart := ordered_apart ascending collection
  refine List.Pairwise.sublist window ((perm.pairwise_iff ?_).mpr apart)
  intro first second different
  rwa [Value.sameKey_comm]

/-- Every selected row is a row of the table. -/
theorem scan_of_mem_rows
    (ascending : table.rows.Ascending) {collection : Collection} {row : Value × Record}
    (selected : row ∈ collection.rows table) :
    row ∈ table.scan := by
  rcases rows_sublist collection table with ⟨directed, perm, window⟩
  have member : row ∈ collection.ordered table := perm.mem_iff.mp (window.mem selected)
  exact ((mem_ordered ascending collection row).mp member).1

/-- Every selected row is found in the table under its own key. -/
theorem get?_of_mem_rows
    (ascending : table.rows.Ascending) {collection : Collection} {row : Value × Record}
    (selected : row ∈ collection.rows table) :
    table.get? row.1 = some row.2 :=
  ascending.get?_of_mem (scan_of_mem_rows ascending selected)

end Collection

end LiveTable
