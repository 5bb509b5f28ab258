import LiveTable.Proofs.Table.Index
import LiveTable.Store.Operation
import Mathlib.Data.List.Induction

/-!
# Order and pages of a query

The rows that a query by hand selects are put in one of two orders.  A query that begins
with its only match is sorted by the matched field, and one without a match that begins
with an index by the field of the index; among rows with equal values, and in every other
query, the keys decide.  As no two rows have one key, there is exactly one such order.

Then the list is turned round, if that was asked for an odd number of times, and cut to the
last window that was given.  Windows that follow each other show every row once.
-/

set_option autoImplicit false

namespace LiveTable

/--
One row comes before another: it has a lesser value of the field, an absent one being the
least, or an equal value and a lesser key.  Without a field only the keys count.
-/
def Table.Precedes (field? : Option String) (a b : Value × Record) : Prop :=
  compareLex (compareOn fun row : Value × Record => field?.bind row.2.getPath?)
    (compareOn Prod.fst) a b = .lt

namespace Collection

variable {table : Table}

/-! ## The order of the rows -/

/--
The field that rows are sorted by before their keys: that of the first step, if it is the
only match, or if nothing is matched that of the index, unless it is the primary key.
-/
def sortField? (collection : Collection) (schema : TableSchema) : Option String :=
  if collection.steps.any isSelect then
    match collection.steps with
    | .select field _ :: rest => if rest.any isSelect then none else some field
    | _ => none
  else collection.order?.filter fun field => field != schema.primaryKey

theorem ascending_precedes {rows : Rows} (ascending : rows.Ascending) :
    rows.entries.Pairwise (Table.Precedes none) :=
  ascending

/-- Rows that are sorted by a field, and do not share a key, precede each other. -/
theorem precedes_of_rowOrder {field : String} {rows : List (Value × Record)}
    (sorted : rows.Pairwise fun a b => (Table.rowOrder field a b).isLE)
    (apart : rows.Pairwise fun a b => a.1.sameKey b.1 = false) :
    rows.Pairwise (Table.Precedes (some field)) := by
  refine (sorted.and apart).imp ?_
  rintro a b ⟨notAfter, different⟩
  rw [Table.rowOrder_eq] at notAfter
  refine (Ordering.isLE_iff_eq_lt_or_eq_eq.mp notAfter).resolve_right fun equal => ?_
  have keys : compare a.1 b.1 = .eq := (compareLex_eq_eq.mp equal).2
  rw [(Value.sameKey_iff a.1 b.1).mpr keys] at different
  contradiction

/-- The rows of a scan come in the order of its index, if it is one, and then of the keys. -/
theorem scanned_ordered (ascending : table.rows.Ascending) (order? : Option String)
    {rows : List (Value × Record)}
    (part : rows.Sublist (match order? with
      | some field => table.scanBy field
      | none => table.scan))
    (apart : rows.Pairwise fun a b => a.1.sameKey b.1 = false) :
    rows.Pairwise (Table.Precedes
      (order?.filter fun field => field != table.schema.primaryKey)) := by
  cases order? with
  | none => exact (ascending_precedes ascending).sublist part
  | some field =>
      by_cases primary : field = table.schema.primaryKey
      · simp only [Table.scanBy, if_pos primary] at part
        rw [Option.filter_some_neg (by simpa using primary)]
        exact (ascending_precedes ascending).sublist part
      · simp only [Table.scanBy, if_neg primary] at part
        rw [Option.filter_some_pos (by simpa using primary)]
        exact precedes_of_rowOrder ((Table.sortedBy_ordered field _).sublist part) apart

/-- Every collection selects rows in the order of its field and then of the keys. -/
theorem ordered_precedes (ascending : table.rows.Ascending) (collection : Collection) :
    (collection.ordered table).Pairwise (Table.Precedes (collection.sortField? table.schema)) := by
  have apart := ordered_apart ascending collection
  rw [ordered] at apart ⊢
  rw [sortField?]
  -- What matches select comes from a map, and is sorted for one match in front only.
  by_cases selects : collection.steps.any isSelect
  · have chosen : (selectedBy table collection.steps).entries.Pairwise (Table.Precedes none) := by
      have taken : collection.steps ≠ [] := by
        intro none
        simp [none] at selects
      exact ascending_precedes (selectedBy_members ascending taken).1
    rw [selectedBy] at chosen
    rw [if_pos selects] at apart ⊢
    rw [if_pos selects]
    cases steps : collection.steps with
    | nil => simpa [steps] using chosen
    | cons step rest =>
        rw [steps] at apart chosen
        cases step with
        | keep test => exact chosen
        | select field condition =>
            cases more : rest.any isSelect with
            | true => simpa [more] using chosen
            | false =>
                simp only [more] at apart ⊢
                exact precedes_of_rowOrder (Table.sortedBy_ordered field _) apart
  · rw [if_neg selects] at apart ⊢
    rw [if_neg selects]
    exact scanned_ordered ascending collection.order? List.filter_sublist apart

/-- The selected rows are those of the table that the collection lets in, each taken once. -/
theorem ordered_perm_filter (ascending : table.rows.Ascending) (collection : Collection) :
    (collection.ordered table).Perm
      (table.scan.filter fun row => collection.admits table.schema row.2) := by
  have scanned : table.scan.Nodup := Table.nodup_of_apart (apart_of_ascending ascending)
  refine (List.perm_ext_iff_of_nodup (Table.nodup_of_apart (ordered_apart ascending collection))
    (scanned.filter _)).mpr fun row => ?_
  rw [mem_ordered ascending, List.mem_filter]

end Collection

/-! ## What the steps of a query change -/

namespace QueryStep

/-- The step that is added to the selection. -/
def selection? : QueryStep → Option Step
  | .or field condition => some (.select field condition)
  | .filter test => some (.keep test)
  | _ => none

/-- Whether the order is turned round. -/
def turns : QueryStep → Bool
  | .reverse => true
  | _ => false

/-- How many rows are left out from now on. -/
def offset? : QueryStep → Option Nat
  | .offset count => some count
  | _ => none

/-- How many rows there are at most from now on. -/
def limit? : QueryStep → Option Nat
  | .limit count => some count
  | _ => none

/-- Whether the window is left as it is. -/
def keepsWindow (step : QueryStep) : Bool :=
  step.offset?.isNone && step.limit?.isNone

/-- Rows in the direction of a query: each of its turns turns them round. -/
def directed (steps : List QueryStep) (rows : List (Value × Record)) : List (Value × Record) :=
  if steps.countP turns % 2 = 1 then rows.reverse else rows

/-- Rows without those before the last offset of a query, and no more than its last limit. -/
def window (steps : List QueryStep) (rows : List (Value × Record)) : List (Value × Record) :=
  let rest := rows.drop ((steps.filterMap offset?).getLast?.getD 0)
  match (steps.filterMap limit?).getLast? with
  | some count => rest.take count
  | none => rest

/-- Steps add to the selection, turn the order round each time, and the last window counts. -/
theorem foldl_extend (steps : List QueryStep) (base : Collection) :
    steps.foldl extend base =
      { order? := base.order?
        steps := base.steps ++ steps.filterMap selection?
        reversed := base.reversed ^^ (steps.countP turns % 2 == 1)
        offset := (steps.filterMap offset?).getLast?.getD base.offset
        limit? := (steps.filterMap limit?).getLast?.or base.limit? } := by
  induction steps using List.reverseRecOn with
  | nil => simp
  | append_singleton early last ih =>
      rw [List.foldl_concat, ih]
      cases last with
      | or field condition =>
          simp [extend, Collection.matching, Collection.withStep, selection?, turns, offset?, limit?]
      | filter test =>
          simp [extend, Collection.filter, Collection.withStep, selection?, turns, offset?, limit?]
      | reverse =>
          simp only [extend, Collection.reverse, selection?, turns, offset?, limit?,
            List.filterMap_append, List.filterMap_cons, List.filterMap_nil, List.append_nil,
            List.countP_append, List.countP_singleton]
          rcases Nat.mod_two_eq_zero_or_one (early.countP turns) with even | odd
          · simp [Nat.add_mod, even]
          · simp [Nat.add_mod, odd]
      | offset count => simp [extend, Collection.skip, selection?, turns, offset?, limit?]
      | limit count => simp [extend, Collection.take, selection?, turns, offset?, limit?]

/-- The steps that select decide which rows there are, and in which order. -/
theorem ordered_congr {first second : List QueryStep} {base : Collection} {table : Table}
    (same : first.filterMap selection? = second.filterMap selection?) :
    (first.foldl extend base).ordered table = (second.foldl extend base).ordered table := by
  rw [foldl_extend, foldl_extend, same]
  rfl

theorem selection_keepsWindow (steps : List QueryStep) :
    (steps.filter keepsWindow).filterMap selection? = steps.filterMap selection? := by
  rw [List.filterMap_filter]
  congr 1
  funext step
  cases step <;> rfl

theorem directed_keepsWindow (steps : List QueryStep) (rows : List (Value × Record)) :
    directed (steps.filter keepsWindow) rows = directed steps rows := by
  have counted : (steps.filter keepsWindow).countP turns = steps.countP turns := by
    rw [List.countP_filter]
    congr 1
    funext step
    cases step <;> rfl
  rw [directed, directed, counted]

theorem window_keepsWindow (steps : List QueryStep) (rows : List (Value × Record)) :
    window (steps.filter keepsWindow) rows = rows := by
  have kept : ∀ step ∈ steps.filter keepsWindow, step.offset? = none ∧ step.limit? = none := by
    intro step member
    simpa [keepsWindow] using (List.mem_filter.mp member).2
  have noOffset : (steps.filter keepsWindow).filterMap offset? = [] :=
    List.filterMap_eq_nil_iff.mpr fun step member => (kept step member).1
  have noLimit : (steps.filter keepsWindow).filterMap limit? = [] :=
    List.filterMap_eq_nil_iff.mpr fun step member => (kept step member).2
  rw [window, noOffset, noLimit]
  rfl

section

variable (steps : List QueryStep) (offset limit : Nat)

theorem selection_window :
    (steps ++ [QueryStep.offset offset, QueryStep.limit limit]).filterMap selection? =
      steps.filterMap selection? := by
  simp [selection?]

theorem directed_window (rows : List (Value × Record)) :
    directed (steps ++ [QueryStep.offset offset, QueryStep.limit limit]) rows =
      directed steps rows := by
  simp [directed, turns]

theorem window_window (rows : List (Value × Record)) :
    window (steps ++ [QueryStep.offset offset, QueryStep.limit limit]) rows =
      (rows.drop offset).take limit := by
  have offsets : (steps ++ [QueryStep.offset offset, QueryStep.limit limit]).filterMap offset? =
      steps.filterMap offset? ++ [offset] := List.filterMap_append
  have limits : (steps ++ [QueryStep.offset offset, QueryStep.limit limit]).filterMap limit? =
      steps.filterMap limit? ++ [limit] := List.filterMap_append
  rw [window, offsets, limits, List.getLast?_concat, List.getLast?_concat]
  rfl

end

end QueryStep

/-- Windows of one size that follow each other show a list from its beginning. -/
theorem flatMap_windows {Row : Type} (rows : List Row) (size count : Nat) :
    (List.range count).flatMap (fun page => (rows.drop (page * size)).take size) =
      rows.take (count * size) := by
  induction count with
  | zero => simp
  | succ count ih =>
      rw [List.range_succ, List.flatMap_append, ih, List.flatMap_singleton, Nat.succ_mul,
        List.take_add]

namespace QueryStart

variable {start : QueryStart} {table : Table} {base : Collection}

/-- A query begins with all rows in their order. -/
theorem begins_unpaged (begun : start.collection table.schema = .ok base) :
    base.reversed = false ∧ base.offset = 0 ∧ base.limit? = none := by
  cases start with
  | orderedBy field =>
      rw [collection, Collection.orderedByIndex] at begun
      split at begun
      · rcases Except.ok.inj begun with rfl
        exact ⟨rfl, rfl, rfl⟩
      · contradiction
  | all | matching field condition | filter test =>
      rcases Except.ok.inj begun with rfl
      exact ⟨rfl, rfl, rfl⟩

/-- The rows of a query are those of its collection in order, turned and cut to the window. -/
theorem rows_eq (begun : start.collection table.schema = .ok base) (steps : List QueryStep) :
    (steps.foldl QueryStep.extend base).rows table =
      QueryStep.window steps
        (QueryStep.directed steps ((steps.foldl QueryStep.extend base).ordered table)) := by
  rcases begins_unpaged begun with ⟨forwards, noOffset, noLimit⟩
  have turned : (steps.foldl QueryStep.extend base).reversed =
      (steps.countP QueryStep.turns % 2 == 1) := by
    rw [QueryStep.foldl_extend, forwards]
    exact Bool.false_xor _
  have offset : (steps.foldl QueryStep.extend base).offset =
      (steps.filterMap QueryStep.offset?).getLast?.getD 0 := by
    rw [QueryStep.foldl_extend, noOffset]
  have limit : (steps.foldl QueryStep.extend base).limit? =
      (steps.filterMap QueryStep.limit?).getLast? := by
    rw [QueryStep.foldl_extend, noLimit, Option.or_none]
  simp only [Collection.rows, turned, offset, limit, beq_iff_eq]
  rfl

/-- Without its windows a query selects the same rows, and shows all of them. -/
theorem rows_unpaged (begun : start.collection table.schema = .ok base)
    (steps : List QueryStep) :
    ((steps.filter QueryStep.keepsWindow).foldl QueryStep.extend base).rows table =
      QueryStep.directed steps ((steps.foldl QueryStep.extend base).ordered table) := by
  rw [rows_eq begun, QueryStep.ordered_congr (QueryStep.selection_keepsWindow steps),
    QueryStep.directed_keepsWindow, QueryStep.window_keepsWindow]

/-- A window that is given last is the window that counts. -/
theorem rows_page (begun : start.collection table.schema = .ok base) (steps : List QueryStep)
    (offset limit : Nat) :
    ((steps ++ [QueryStep.offset offset, QueryStep.limit limit]).foldl QueryStep.extend base).rows
        table =
      ((QueryStep.directed steps ((steps.foldl QueryStep.extend base).ordered table)).drop
        offset).take limit := by
  rw [rows_eq begun, QueryStep.ordered_congr (QueryStep.selection_window steps offset limit),
    QueryStep.directed_window, QueryStep.window_window]

/--
The rows of a query are the selected rows of the table, each taken once, in the order of the
field and then of the keys; turned round if that was asked for an odd number of times, and
cut to the last offset and the last limit.  The pages of one size show, one after the other,
what the query shows without a window, and no key twice.
-/
theorem rows_in_order_and_pages (ascending : table.rows.Ascending)
    (begun : start.collection table.schema = .ok base) (steps : List QueryStep) :
    let query (steps : List QueryStep) : Collection := steps.foldl QueryStep.extend base
    let unpaged := (query (steps.filter QueryStep.keepsWindow)).rows table
    let page (size index : Nat) : List (Value × Record) :=
      (query (steps ++ [.offset (index * size), .limit size])).rows table
    (∃ sorted : List (Value × Record),
      sorted.Perm (table.scan.filter fun row => (query steps).admits table.schema row.2) ∧
      sorted.Pairwise (Table.Precedes ((query steps).sortField? table.schema)) ∧
      unpaged = QueryStep.directed steps sorted) ∧
    (query steps).rows table = QueryStep.window steps unpaged ∧
    unpaged.Pairwise (fun a b => a.1.sameKey b.1 = false) ∧
    (∀ size count, (List.range count).flatMap (page size) = unpaged.take (count * size)) ∧
    ∀ size, 0 < size → (List.range unpaged.length).flatMap (page size) = unpaged := by
  intro query unpaged page
  have shown : unpaged = QueryStep.directed steps ((query steps).ordered table) :=
    rows_unpaged begun steps
  have pages (size count : Nat) :
      (List.range count).flatMap (page size) = unpaged.take (count * size) := by
    rw [shown, ← flatMap_windows]
    congr 1
    funext index
    exact rows_page begun steps (index * size) size
  refine ⟨⟨(query steps).ordered table, (query steps).ordered_perm_filter ascending,
    (query steps).ordered_precedes ascending, shown⟩, ?_, Collection.rows_apart ascending _,
    pages, ?_⟩
  · rw [shown]
    exact rows_eq begun steps
  · intro size positive
    rw [pages]
    exact List.take_of_length_le (Nat.le_mul_of_pos_right _ positive)

/-- The pages of two rows each, where two of the values are equal in different forms. -/
theorem pages_of_matched_rows :
    let row (key : Int64) (value : Value) : Value × Record := (.integer key, .ofList [("a", value)])
    let table : Table := ⟨⟨"t", "id", false, []⟩,
      ⟨[row 1 (.float (.ofInt 5)), row 2 (.integer 1), row 3 (.integer 5)]⟩, 4⟩
    let start : QueryStart := .matching "a" (.above (.integer 0))
    let base := Collection.all.matching "a" (.above (.integer 0))
    let query (steps : List QueryStep) : Collection := steps.foldl QueryStep.extend base
    table.rows.Ascending ∧ start.collection table.schema = .ok base ∧
      (List.range ((query [.reverse]).rows table).length).flatMap (fun index =>
        (query [.reverse, .limit 1, .offset (index * 2), .limit 2]).rows table) =
          (query [.reverse]).rows table := by
  intro row table start base query
  have ascending : table.rows.Ascending := by
    subst table
    decide +kernel
  have begun : start.collection table.schema = .ok base := rfl
  obtain ⟨_, _, _, _, pages⟩ := rows_in_order_and_pages ascending begun [.reverse, .limit 1]
  exact ⟨ascending, begun, pages 2 (by decide)⟩

end QueryStart

end LiveTable
