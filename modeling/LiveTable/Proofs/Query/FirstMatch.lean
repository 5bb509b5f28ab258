import LiveTable.Proofs.Query.Meaning
import LiveTable.Proofs.Store.Keys
import LiveTable.Proofs.Store.OneShot

/-!
# The first match of a descriptor

The first match of a descriptor is found by its plan with a limit of one in the place of
the limit of the descriptor.  So it is the first of the keys that the descriptor selects,
unless the limit of the descriptor is zero: then there are none.

`Workspace.Rewritten` is what an update of the first match comes to.  The row that is
found is there under its own key, which is not null; so storing the changed record under
that key is not refused, and concerns that row only.
-/

set_option autoImplicit false

namespace LiveTable

/-! ## Finding the first match -/

namespace Collection

/-- The first row of the collection, whatever its limit. -/
def first (collection : Collection) : Collection :=
  collection.take 1

/-- The first key is the first of the keys, where the limit lets one through. -/
theorem head?_keys_first
    {collection : Collection} (limited : collection.limit? ≠ some 0) (table : Table) :
    (collection.first.keys table).head? = (collection.keys table).head? := by
  rw [keys, keys, List.head?_map, List.head?_map]
  congr 1
  simp only [rows, first, take]
  cases limit : collection.limit? with
  | none => exact List.head?_take.trans (if_neg Nat.one_ne_zero)
  | some count =>
      have some : count ≠ 0 := by
        rintro rfl
        exact limited limit
      exact (List.head?_take.trans (if_neg Nat.one_ne_zero)).trans
        (List.head?_take.trans (if_neg some)).symm

end Collection

namespace Descriptor

variable {descriptor : Descriptor} {schema : TableSchema} {collection : Collection}

/-- The limit of a plan is that of its descriptor. -/
theorem limit?_of_plan (planned : descriptor.plan schema = .ok collection) :
    collection.limit? = descriptor.limit? := by
  simp only [plan, bind, Except.bind, pure, Except.pure] at planned
  split at planned
  · contradiction
  · next selection built =>
      have unlimited : selection.limit? = none := by
        cases given : descriptor.clauses? with
        | some clauses =>
            rcases selection_of_clauses given built with ⟨_, rfl, _⟩
            rfl
        | none =>
            rw [selection_of_order given built]
            rfl
      rw [← Except.ok.inj planned, finish_eq, unlimited, Option.or_none]

/-- The plan of the first key is the plan of the descriptor with its own limit. -/
theorem plan_firstKey (descriptor : Descriptor) (schema : TableSchema) :
    descriptor.firstKey.plan schema = (descriptor.plan schema).map Collection.first := by
  have selected : descriptor.firstKey.selection schema = descriptor.selection schema := rfl
  rw [plan, plan, selected]
  cases descriptor.selection schema with
  | error error => rfl
  | ok selection =>
      show Except.ok _ = Except.ok _
      congr 1
      rw [finish_eq, finish_eq]
      rfl

/-- The first match is looked for by the plan of the descriptor, and fails only where that does. -/
theorem runOn_findFirst (descriptor : Descriptor) (space : Workspace) :
    Work.runOn descriptor.findFirst space =
      ((descriptor.plan space.table.schema).map fun collection =>
        (collection.first.keys space.table).head?, space) := by
  have answered : Work.runOn descriptor.firstKey.run space =
      ((descriptor.plan space.table.schema).map fun collection =>
        .keys (collection.first.keys space.table), space) := by
    rw [runOn_run, plan_firstKey]
    cases descriptor.plan space.table.schema <;> rfl
  cases planned : descriptor.plan space.table.schema with
  | error error =>
      rw [planned] at answered
      exact Work.runOn_bind_error answered
  | ok collection =>
      rw [planned] at answered
      exact Work.runOn_bind_ok answered

/-- The row of the first match is there, under a key that is not null. -/
theorem row_of_first
    {table : Table} (ascending : table.rows.Ascending) (keyed : table.AllKeyed) {key : Value}
    (found : (collection.first.keys table).head? = some key) :
    ∃ current, (key, current) ∈ table.scan ∧ table.get? key = some current ∧
      key.isNull = false := by
  rcases List.mem_map.mp (List.mem_of_mem_head? found) with ⟨row, selected, rfl⟩
  have member := Collection.scan_of_mem_rows ascending selected
  exact ⟨row.2, member, ascending.get?_of_mem member, (keyed row member).notNull⟩

end Descriptor

/-! ## Storing under a key that is given -/

namespace Table

/-- The table with a record stored under a key. -/
def rewrite (table : Table) (key : Value) (record : Record) : Table :=
  { table with
    rows := table.rows.insert key record
    nextKey := nextAfter table.nextKey key }

variable {table : Table} {key : Value}

theorem resolve_given (notNull : key.isNull = false) (table : Table) (record : Record) :
    table.resolve record (some key) = .ok (key, table.withKey record key) := by
  simp [resolve, usable?, notNull]

theorem get?_rewrite (table : Table) (key : Value) (record : Record) :
    (table.rewrite key record).get? key = some record :=
  table.rows.get?_insert_self key record

theorem keys_rewrite
    (ascending : table.rows.Ascending) (held : (table.get? key).isSome) (record : Record) :
    (table.rewrite key record).rows.keys = table.rows.keys := by
  rw [rewrite, ascending.insert_eq_modify held, OrderedMap.keys_modify]

/-- Storing under the key of a row leaves every other row as it is. -/
theorem mem_scan_rewrite
    (ascending : table.rows.Ascending) {former : Record} (stored : (key, former) ∈ table.scan)
    (record : Record) {row : Value × Record} (member : row ∈ table.scan) (other : row.1 ≠ key) :
    row ∈ (table.rewrite key record).scan := by
  have held : (table.rows.get? key).isSome := by
    rw [ascending.get?_of_mem stored]
    rfl
  have apart : compare key row.1 ≠ .eq := by
    intro same
    have one := ascending.eq_of_compare stored member same
    exact other (congrArg Prod.fst one).symm
  rw [scan, rewrite, ascending.insert_eq_modify held]
  exact List.mem_map.mpr ⟨row, member, if_neg apart⟩

end Table

/-- A transaction that may write stores a record under a key that is given and not null. -/
theorem Work.runOn_put_given
    {space : Workspace} (writable : space.transaction.mode = .readWrite) {key : Value}
    (notNull : key.isNull = false) (record : Record) :
    Work.runOn (Work.put record (some key)) space =
      (.ok key, ⟨space.table.rewrite key (space.table.withKey record key),
        space.transaction.note (.put space.table.name key (space.table.withKey record key)
          (space.table.get? key))⟩) := by
  simp [Work.runOn_put, Transaction.put, Transaction.checkWritable, writable, Table.put,
    Table.resolve_given notNull, Table.rewrite, Table.name, bind, Except.bind, Pure.pure,
    Except.pure]

/-! ## Updating the first match -/

/--
What an update of the row under a key that was found, or of none, comes to in a workspace,
and the workspace that it leaves.
-/
inductive Workspace.Updated (space : Workspace) (change : Record → Except Error Record) :
    Option Value → Except Error (Option Value) → Workspace → Prop where
  | unmatched : Updated space change none (.ok none) space
  | rejected {key : Value} {current : Record} {error : Error}
      (held : space.table.get? key = some current) (rejected : change current = .error error) :
      Updated space change (some key) (.error error) space
  | rewritten {key : Value} {current record : Record}
      (stored : (key, current) ∈ space.table.scan) (held : space.table.get? key = some current)
      (changed : change current = .ok record) :
      Updated space change (some key) (.ok (some key))
        ⟨space.table.rewrite key (space.table.withKey record key),
          space.transaction.note (.put space.table.name key (space.table.withKey record key)
            (some current))⟩

theorem Request.updated
    {descriptor : Descriptor} {space : Workspace} {collection : Collection}
    (ascending : space.table.rows.Ascending) (keyed : space.table.AllKeyed)
    (writable : space.transaction.mode = .readWrite)
    (planned : descriptor.plan space.table.schema = .ok collection)
    (change : Record → Except Error Record) :
    space.Updated change (collection.first.keys space.table).head?
      (Work.runOn (updateFirst descriptor change) space).1
      (Work.runOn (updateFirst descriptor change) space).2 := by
  have looked := descriptor.runOn_findFirst space
  rw [planned, Except.map] at looked
  cases found : (collection.first.keys space.table).head? with
  | none =>
      rw [found] at looked
      rw [updateFirst, Work.runOn_bind_ok looked]
      exact .unmatched
  | some key =>
      rcases Descriptor.row_of_first ascending keyed found with ⟨current, stored, held, notNull⟩
      rw [found] at looked
      rw [updateFirst, Work.runOn_bind_ok looked]
      dsimp only
      rw [Work.runOn_bind_ok (Work.runOn_table space), held]
      dsimp only
      cases changed : change current with
      | error error => exact .rejected held changed
      | ok record =>
          have put := Work.runOn_put_given writable notNull record
          rw [held] at put
          dsimp only
          rw [Work.runOn_bind_ok put]
          exact .rewritten stored held changed

end LiveTable
