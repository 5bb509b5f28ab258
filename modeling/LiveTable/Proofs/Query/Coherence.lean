import LiveTable.Proofs.Table.Selection
import LiveTable.Proofs.Table.Writing
import LiveTable.Query.Result

/-!
# Projections of one query

The projections of a descriptor are answered from one selection.  The keys of a
selection are keys of the table, no two of them one key, and each is found under
itself; so point reads of the keys give the records, in their order, and deleting the
keys deletes as many rows as were selected, and those only.
-/

set_option autoImplicit false

namespace LiveTable

namespace Collection

variable {table : Table}

theorem keys_apart (ascending : table.rows.Ascending) (collection : Collection) :
    (collection.keys table).Pairwise fun first second => first.sameKey second = false :=
  List.pairwise_map.mpr (rows_apart ascending collection)

/-- Point reads of the selected keys give the selected records, in their order. -/
theorem get?_keys (ascending : table.rows.Ascending) (collection : Collection) :
    (collection.keys table).map table.get? = (collection.records table).map some := by
  rw [keys, records, List.map_map, List.map_map]
  apply List.map_congr_left
  intro row selected
  exact get?_of_mem_rows ascending selected

theorem keys_present
    (ascending : table.rows.Ascending) {collection : Collection} {key : Value}
    (selected : key ∈ collection.keys table) :
    (table.get? key).isSome := by
  rcases List.mem_map.mp selected with ⟨row, member, rfl⟩
  rw [get?_of_mem_rows ascending member]
  rfl

theorem count_eq_length_keys (collection : Collection) (table : Table) :
    collection.count table = (collection.keys table).length := by
  rw [count, keys, List.length_map]

/-- Deleting a selection deletes the rows under the selected keys and counts them. -/
theorem runOn_delete
    {space : Workspace} (ascending : space.table.rows.Ascending)
    (writable : space.transaction.mode = .readWrite) (collection : Collection) :
    ∃ left,
      Work.runOn collection.delete space = (.ok (collection.keys space.table).length, left) ∧
        left.table = space.table.without (collection.keys space.table) := by
  rw [delete, Work.runOn_bind_ok (Work.runOn_table space)]
  exact Work.runOn_deleteAll writable (keys_apart ascending collection) fun key =>
    keys_present ascending

/-- What a projection answers of a collection; erasing answers how many rows it deletes. -/
def answer (collection : Collection) (wanted : Projection) (table : Table) : QueryResult :=
  match wanted with
  | .count => .count (collection.count table)
  | .primaryKeys => .keys (collection.keys table)
  | .erase => .deleted (collection.keys table).length
  | .toArray => .records (collection.records table)
  | .none => .unmaterialized

end Collection

namespace Descriptor

/-- A projection is answered wherever erasing is allowed. -/
theorem runOn_project
    {space : Workspace} (ascending : space.table.rows.Ascending) {wanted : Projection}
    (writable : wanted = .erase → space.transaction.mode = .readWrite)
    (collection : Collection) :
    (Work.runOn (project wanted collection) space).1 =
      .ok (collection.answer wanted space.table) := by
  cases wanted with
  | erase =>
      rcases collection.runOn_delete ascending (writable rfl) with ⟨left, deleted, _⟩
      have answered :
          Work.runOn (project .erase collection) space =
            (.ok (.deleted (collection.keys space.table).length), left) :=
        Work.runOn_bind_ok deleted
      rw [answered]
      rfl
  | count => rfl
  | primaryKeys => rfl
  | toArray => rfl
  | none => rfl

/-- The descriptor with the demand for one projection in place of its own. -/
def projecting (descriptor : Descriptor) (projection : Projection) : Descriptor :=
  { descriptor with
    count := projection = .count
    primaryKeys := projection = .primaryKeys
    erase := projection = .erase
    toArray := projection = .toArray }

@[simp]
theorem projection_projecting (descriptor : Descriptor) (wanted : Projection) :
    (descriptor.projecting wanted).projection = wanted := by
  cases wanted <;> rfl

@[simp]
theorem plan_projecting
    (descriptor : Descriptor) (wanted : Projection) (schema : TableSchema) :
    (descriptor.projecting wanted).plan schema = descriptor.plan schema :=
  rfl

theorem runOn_run (descriptor : Descriptor) (space : Workspace) :
    Work.runOn descriptor.run space =
      match descriptor.plan space.table.schema with
      | .error error => (.error error, space)
      | .ok collection => Work.runOn (project descriptor.projection collection) space := by
  rw [run, Work.runOn_bind_ok (Work.runOn_table space)]
  cases descriptor.plan space.table.schema <;> rfl

theorem runOn_projecting
    {descriptor : Descriptor} {table : Table} {collection : Collection}
    (planned : descriptor.plan table.schema = .ok collection)
    (wanted : Projection) (transaction : Transaction) :
    Work.runOn (descriptor.projecting wanted).run ⟨table, transaction⟩ =
      Work.runOn (project wanted collection) ⟨table, transaction⟩ := by
  rw [runOn_run, plan_projecting, planned, projection_projecting]

/-- A descriptor that is answered has a plan. -/
theorem plan_of_run
    {descriptor : Descriptor} {table : Table} {transaction : Transaction}
    {answer : QueryResult}
    (compiled : (Work.runOn descriptor.run ⟨table, transaction⟩).1 = .ok answer) :
    ∃ collection, descriptor.plan table.schema = .ok collection := by
  rw [runOn_run] at compiled
  cases planned : descriptor.plan table.schema with
  | error error =>
      simp only [planned] at compiled
      contradiction
  | ok collection => exact ⟨collection, rfl⟩

/--
What the projections of one descriptor answer on one state of a table belongs together,
and erasing leaves the rows under no selected key as they are.
-/
theorem projections_agree
    {descriptor : Descriptor} {table : Table} {transaction : Transaction}
    {answer : QueryResult}
    (ascending : table.rows.Ascending)
    (compiled : (Work.runOn descriptor.run ⟨table, transaction⟩).1 = .ok answer) :
    ∃ (keys : List Value) (records : List Record),
      (keys.Pairwise fun first second => first.sameKey second = false) ∧
      keys.map table.get? = records.map some ∧
      (∀ reading : Transaction,
        Work.runOn (descriptor.projecting .primaryKeys).run ⟨table, reading⟩ =
            (.ok (.keys keys), ⟨table, reading⟩) ∧
          Work.runOn (descriptor.projecting .toArray).run ⟨table, reading⟩ =
            (.ok (.records records), ⟨table, reading⟩) ∧
          Work.runOn (descriptor.projecting .count).run ⟨table, reading⟩ =
            (.ok (.count keys.length), ⟨table, reading⟩)) ∧
      ∀ writing : Transaction, writing.mode = .readWrite →
        ∃ left,
          Work.runOn (descriptor.projecting .erase).run ⟨table, writing⟩ =
              (.ok (.deleted keys.length), left) ∧
            left.table.scan = table.scan.filter fun row => !keys.any row.1.sameKey := by
  rcases plan_of_run compiled with ⟨collection, planned⟩
  refine ⟨collection.keys table, collection.records table,
    Collection.keys_apart ascending collection, Collection.get?_keys ascending collection,
    ?_, ?_⟩
  · intro reading
    rw [runOn_projecting planned, runOn_projecting planned, runOn_projecting planned,
      ← Collection.count_eq_length_keys]
    exact ⟨rfl, rfl, rfl⟩
  · intro writing writable
    have erased :
        ∃ left, Work.runOn collection.delete ⟨table, writing⟩ =
            (.ok (collection.keys table).length, left) ∧
          left.table = table.without (collection.keys table) :=
      Collection.runOn_delete ascending writable collection
    rcases erased with ⟨left, deleted, kept⟩
    refine ⟨left, ?_, ?_⟩
    · rw [runOn_projecting planned]
      exact Work.runOn_bind_ok deleted
    · rw [Table.scan, kept]
      rfl

/-- Of three rows in reverse order, all but the first are erased. -/
theorem projections_agree_on_window :
    let row (n : Int64) : Value × Record := (.integer n, .ofList [("id", .integer n)])
    let table : Table := ⟨⟨"t", "id", false, []⟩, ⟨[row 1, row 2, row 3]⟩, 4⟩
    let descriptor := { Descriptor.all with reverse := true, offset? := some 1 }
    ∃ left,
      Work.runOn (descriptor.projecting .erase).run ⟨table, .begin "t" .readWrite⟩ =
          (.ok (.deleted 2), left) ∧
        left.table.scan = [row 3] := by
  intro row table descriptor
  have ascending : table.rows.Ascending := by
    refine List.pairwise_cons.mpr ⟨?_, List.pairwise_pair.mpr (show compare _ _ = _ by decide)⟩
    simp only [List.forall_mem_cons]
    exact ⟨show compare _ _ = _ by decide, show compare _ _ = _ by decide, nofun⟩
  obtain ⟨keys, records, _, _, reads, erases⟩ :=
    projections_agree ascending
      (show (Work.runOn descriptor.run ⟨table, .begin "t" .readOnly⟩).1 = .ok _ from rfl)
  have read :
      (Except.ok (QueryResult.keys [.integer 2, .integer 1]),
          Workspace.mk table (.begin "t" .readOnly)) =
        (Except.ok (QueryResult.keys keys), Workspace.mk table (.begin "t" .readOnly)) :=
    (reads (.begin "t" .readOnly)).1
  obtain rfl : [.integer 2, .integer 1] = keys := by simpa using read
  exact erases (.begin "t" .readWrite) rfl

end Descriptor

end LiveTable
