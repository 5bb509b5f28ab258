import LiveTable.Proofs.Table.Selection
import LiveTable.Proofs.Value.Sorting

/-!
# Rows in the order of a field

Rows are sorted by the value of a field and then by their keys.  Among rows whose values of the
field are the same key only the order of the keys remains, so in the sorted list they stand
as they do in the table.
-/

set_option autoImplicit false

namespace LiveTable.Table

/-- The order of rows is that of their values, an absent value first, and then of their keys. -/
theorem rowOrder_eq (field : String) (a b : Value × Record) :
    rowOrder field a b =
      compareLex (compareOn fun row : Value × Record => row.2.getPath? field)
        (compareOn Prod.fst) a b := by
  simp only [rowOrder, compareLex, compareOn]
  cases a.2.getPath? field <;> cases b.2.getPath? field <;> rfl

theorem rowOrder_trans (field : String) (a b c : Value × Record)
    (first : (rowOrder field a b).isLE) (second : (rowOrder field b c).isLE) :
    (rowOrder field a c).isLE := by
  rw [rowOrder_eq] at first second ⊢
  exact Std.TransCmp.isLE_trans first second

theorem rowOrder_total (field : String) (a b : Value × Record) :
    ((rowOrder field a b).isLE || (rowOrder field b a).isLE) = true := by
  have swapped : rowOrder field b a = (rowOrder field a b).swap := by
    rw [rowOrder_eq, rowOrder_eq]
    exact Std.OrientedCmp.eq_swap
  rw [swapped]
  cases rowOrder field a b <;> rfl

theorem sortedBy_ordered (field : String) (rows : List (Value × Record)) :
    (sortedBy field rows).Pairwise fun a b => (rowOrder field a b).isLE :=
  List.pairwise_mergeSort (rowOrder_trans field) (rowOrder_total field) rows

theorem sortedBy_of_ordered
    {field : String} {rows : List (Value × Record)}
    (ordered : rows.Pairwise fun a b => (rowOrder field a b).isLE) :
    sortedBy field rows = rows :=
  List.mergeSort_of_pairwise ordered

/-- Rows whose values are the same key are in the order of their keys. -/
theorem rowOrder_of_sameKey
    {field : String} {a b : Value × Record} {id valueA valueB : Value}
    (foundA : a.2.getPath? field = some valueA) (foundB : b.2.getPath? field = some valueB)
    (sameA : id.sameKey valueA) (sameB : id.sameKey valueB) :
    rowOrder field a b = a.1.order b.1 := by
  have same := Value.sameKey_trans (Value.sameKey_symm sameA) sameB
  have equal : valueA.order valueB = .eq := of_decide_eq_true same
  simp only [rowOrder, foundA, foundB, equal]
  rfl

/-- A row whose value of a field is the same key as an id. -/
def hasId (field : String) (id : Value) (row : Value × Record) : Bool :=
  (row.2.getPath? field).any id.sameKey

/--
Sorted by a field, rows of a table whose values are the same key stand in the order in
which they stand in the table.
-/
theorem filter_hasId_of_ordered
    {table : Table} (ascending : table.rows.Ascending) {field : String}
    {sorted rows : List (Value × Record)} (part : rows.Sublist table.scan)
    (permuted : sorted.Perm rows)
    (ordered : sorted.Pairwise fun a b => (rowOrder field a b).isLE) (id : Value) :
    sorted.filter (hasId field id) = rows.filter (hasId field id) := by
  have keyed {sought : List (Value × Record)}
      (rowOrdered : sought.Pairwise fun a b => (rowOrder field a b).isLE) :
      (sought.filter (hasId field id)).Pairwise fun a b => a.1.notAfter b.1 := by
    apply List.Pairwise.imp_of_mem _ (rowOrdered.filter (hasId field id))
    intro a b memberA memberB before
    rcases (Option.any_eq_true _ _).mp (List.mem_filter.mp memberA).2 with ⟨_, foundA, sameA⟩
    rcases (Option.any_eq_true _ _).mp (List.mem_filter.mp memberB).2 with ⟨_, foundB, sameB⟩
    rwa [rowOrder_of_sameKey foundA foundB sameA sameB] at before
  have rowsKeyed : (rows.filter (hasId field id)).Pairwise fun a b => a.1.notAfter b.1 := by
    have strict := (List.Pairwise.sublist part ascending).filter (hasId field id)
    apply strict.imp
    intro a b before
    change a.1.order b.1 = .lt at before
    rw [Value.notAfter, before]
    rfl
  have within {row : Value × Record} (member : row ∈ rows.filter (hasId field id)) :
      row ∈ table.rows.entries :=
    part.mem (List.mem_filter.mp member).1
  have permutedOwn := permuted.filter (hasId field id)
  -- Both lists are in the order of keys, and no two rows of a table have the same key.
  refine List.Perm.eq_of_pairwise ?_ (keyed ordered) rowsKeyed permutedOwn
  intro a b memberA memberB before after
  have same := Value.sameKey_of_notAfter before after
  exact ascending.eq_of_compare (within (permutedOwn.mem_iff.mp memberA)) (within memberB)
    ((Value.sameKey_iff _ _).mp same)

/-- Rows that do not share a key are different rows. -/
theorem nodup_of_apart {rows : List (Value × Record)}
    (apart : rows.Pairwise fun a b => a.1.sameKey b.1 = false) : rows.Nodup := by
  refine apart.imp ?_
  rintro a b different rfl
  rw [Value.sameKey_refl] at different
  contradiction

/-! ## One match -/

/-- The rows that a collection with one match selects, in the order of the matched field. -/
theorem ordered_of_match
    (table : Table) (field : String) (condition : Condition) :
    (Collection.all.matching field condition).ordered table =
      sortedBy field
        ((table.scan.filter fun row => condition.holds (row.2.getPath? field)).foldl
          (fun rows row => rows.insert row.1 row.2) OrderedMap.empty).entries :=
  rfl

/-- These rows are the matching rows of the table. -/
theorem ordered_of_match_perm
    {table : Table} (ascending : table.rows.Ascending) (field : String) (condition : Condition) :
    ((Collection.all.matching field condition).ordered table).Perm
      (table.scan.filter fun row => condition.holds (row.2.getPath? field)) := by
  have distinct {rows : Rows} (sorted : rows.Ascending) : rows.entries.Nodup :=
    nodup_of_apart (Collection.apart_of_ascending sorted)
  have matchingPart : ∀ row ∈ table.scan.filter (fun row => condition.holds (row.2.getPath? field)),
      row ∈ table.rows.entries := fun row member => (List.mem_filter.mp member).1
  have nothing : ∀ row ∈ (OrderedMap.empty : Rows).entries, row ∈ table.rows.entries :=
    fun _ member => nomatch member
  rcases ascending.mem_foldl_insert matchingPart OrderedMap.empty_ascending nothing with
    ⟨joinedAscending, members⟩
  have matchingDistinct :
      (table.scan.filter fun row => condition.holds (row.2.getPath? field)).Nodup :=
    (distinct ascending).filter _
  rw [ordered_of_match]
  refine (Collection.sortedBy_perm field _).trans ?_
  refine (List.perm_ext_iff_of_nodup (distinct joinedAscending) matchingDistinct).mpr ?_
  intro row
  refine (members row).trans ⟨fun found => found.elim (fun none => nomatch none) id, Or.inr⟩

end LiveTable.Table
