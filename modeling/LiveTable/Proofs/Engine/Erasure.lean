import LiveTable.Proofs.Engine.Settling
import LiveTable.Proofs.Query.Coherence

/-!
# Deleting by a descriptor

A request that deletes by a descriptor demands of it that the selected records be
deleted.  This is one demand among those that the descriptor makes already, and counting
records or listing their keys goes before it.  So a descriptor that demands neither has the
selected rows deleted, and any other is only answered.
-/

set_option autoImplicit false

namespace LiveTable

/-! ## The rows that are left -/

namespace Collection

variable {table : Table} {collection : Collection} {row : Value × Record}

/-- A row of the table is selected if its key is a selected key. -/
theorem any_keys_iff (ascending : table.rows.Ascending) (member : row ∈ table.scan) :
    (collection.keys table).any row.1.sameKey = true ↔ row ∈ collection.rows table := by
  rw [List.any_eq_true]
  constructor
  · rintro ⟨key, selected, same⟩
    rcases List.mem_map.mp selected with ⟨other, chosen, rfl⟩
    have one := ascending.eq_of_compare member (scan_of_mem_rows ascending chosen)
      ((Value.sameKey_iff _ _).mp same)
    rwa [one]
  · exact fun selected => ⟨row.1, List.mem_map_of_mem selected, Value.sameKey_refl row.1⟩

/-- Without the selected keys a table has the rows that are not selected. -/
theorem mem_scan_without (ascending : table.rows.Ascending) :
    row ∈ (table.without (collection.keys table)).scan ↔
      row ∈ table.scan ∧ row ∉ collection.rows table := by
  have filtered : (table.without (collection.keys table)).scan =
      table.scan.filter fun row => !(collection.keys table).any row.1.sameKey := rfl
  rw [filtered, List.mem_filter]
  refine and_congr_right fun member => ?_
  rw [← any_keys_iff ascending member, Bool.not_eq_true', Bool.not_eq_true]

end Collection

/-! ## What the demand to delete comes to -/

namespace Descriptor

variable {descriptor : Descriptor}

/-- Counting and listing keys go before deleting. -/
theorem projection_erasing (descriptor : Descriptor) :
    descriptor.erasing.projection =
      if descriptor.count then .count
      else if descriptor.primaryKeys then .primaryKeys
      else .erase := rfl

theorem runOn_erasing {space : Workspace} {collection : Collection}
    (planned : descriptor.plan space.table.schema = .ok collection) :
    Work.runOn descriptor.erasing.run space =
      Work.runOn (project descriptor.erasing.projection collection) space := by
  have same : descriptor.erasing.plan space.table.schema = .ok collection := planned
  rw [runOn_run, same]

end Descriptor

variable {machine : Machine} {name table : String} {schema : StoreSchema} {config : Config}
  {id : Nat} {descriptor : Descriptor} {ready : Store} {before : Table} {collection : Collection}

/-- A request to delete that makes another demand as well is answered, and deletes nothing. -/
theorem Machine.RunsNext.answers_erasing
    (runs : machine.RunsNext id table (.deleteBy descriptor))
    (keyed : ready.Keyed) (opening : machine.engine.store.open? = .ok ready)
    (held : ready.tables.get? table = some before)
    (planned : descriptor.plan before.schema = .ok collection)
    (other : descriptor.erasing.projection ≠ .erase) :
    machine.Settles id
      (.ok (.result (collection.answer descriptor.erasing.projection before))) ready := by
  let start : Workspace := ⟨before, .begin table .readWrite⟩
  have wellFormed := keyed.sound.wellFormed
  have answered : Work.runOn descriptor.erasing.run start =
      (.ok (collection.answer descriptor.erasing.projection before), start) := by
    refine Prod.ext ?_ (Descriptor.run_reads other start)
    rw [Descriptor.runOn_erasing planned]
    exact Descriptor.runOn_project (wellFormed.rows held) (fun _ => rfl) collection
  have settles := runs.settles
  rw [Store.attempt_reading opening held wellFormed.ascending rfl answered] at settles
  exact settles

/--
A request to delete by a descriptor whose clauses can be read, run between any two steps
on a table of the store.  If the descriptor demands neither a count nor keys, then the
request is settled with the number of the selected rows, the rows that are left are those
that were not selected, and no other table is touched.  If it does demand one of these,
then the request is settled with the count or with the keys, and all rows are left.
-/
theorem deletes_selected_rows
    (atWork : (Engine.create name schema config).AtWork machine)
    (runs : machine.RunsNext id table (.deleteBy descriptor))
    (opening : machine.engine.store.open? = .ok ready)
    (held : ready.tables.get? table = some before)
    (planned : descriptor.plan before.schema = .ok collection) :
    (descriptor.count = false → descriptor.primaryKeys = false →
      ∃ after left,
        machine.Settles id (.ok (.result (.deleted (collection.rows before).length))) after ∧
          after.tables.get? table = some left ∧ left.scan.Sublist before.scan ∧
          (∀ row, row ∈ left.scan ↔ row ∈ before.scan ∧ row ∉ collection.rows before) ∧
          ∀ other, other ≠ table → after.tables.get? other = ready.tables.get? other) ∧
    (descriptor.count = true →
      machine.Settles id (.ok (.result (.count (collection.rows before).length))) ready) ∧
    (descriptor.count = false → descriptor.primaryKeys = true →
      machine.Settles id (.ok (.result (.keys (collection.keys before)))) ready) := by
  have keyed := atWork.keyed.open? opening
  have ascending := keyed.sound.wellFormed.rows held
  have wanted := descriptor.projection_erasing
  refine ⟨?_, ?_, ?_⟩
  · intro noCount noKeys
    rw [noCount, noKeys] at wanted
    let start : Workspace := ⟨before, .begin table .readWrite⟩
    obtain ⟨space, deleted, left⟩ :
        ∃ space, Work.runOn collection.delete start =
            (.ok (collection.keys before).length, space) ∧
          space.table = before.without (collection.keys before) :=
      collection.runOn_delete ascending rfl
    have erased : Work.runOn descriptor.erasing.run start =
        (.ok (.deleted (collection.keys before).length), space) := by
      rw [Descriptor.runOn_erasing planned, wanted]
      exact Work.runOn_bind_ok deleted
    have settles := runs.settles
    rw [Store.attempt_committed opening held rfl erased, ← collection.count_eq_length_keys]
      at settles
    have tables (sought : String) :=
      Tables.get?_replace held space.table sought
    refine ⟨_, space.table, settles, ?_, ?_, ?_, ?_⟩
    · exact (tables table).trans (if_pos rfl)
    · rw [left]
      exact List.filter_sublist
    · intro row
      rw [left]
      exact Collection.mem_scan_without ascending
    · exact fun other apart => (tables other).trans (if_neg apart)
  · intro counts
    rw [counts] at wanted
    have settles := runs.answers_erasing keyed opening held planned (by rw [wanted]; nofun)
    rw [wanted] at settles
    exact settles
  · intro noCount listsKeys
    rw [noCount, listsKeys] at wanted
    have settles := runs.answers_erasing keyed opening held planned (by rw [wanted]; nofun)
    rw [wanted] at settles
    exact settles

/-- Of three rows the last one is deleted by a descriptor in reverse order with a limit of one. -/
theorem deletes_last_row :
    let row (n : Int64) : Value × Record := (.integer n, .ofList [("id", .integer n)])
    let before : Table := ⟨⟨"t", "id", false, []⟩, ⟨[row 1, row 2, row 3]⟩, 4⟩
    let first : Engine := .create "s" ⟨1, [before.schema]⟩ .standard
    let engine := first.afterCall 40
      (.request (.submit none "t" (.putAll [(row 1).2, (row 2).2, (row 3).2])))
    let descriptor := { Descriptor.all with reverse := true, limit? := some 1 }
    ∃ machine after left,
      first.AtWork machine ∧ machine.engine.store.tables.get? "t" = some before ∧
        machine.RunsNext engine.nextId "t" (.deleteBy descriptor) ∧
        machine.Settles engine.nextId (.ok (.result (.deleted 1))) after ∧
        after.tables.get? "t" = some left ∧ row 2 ∈ left.scan ∧ row 3 ∉ left.scan := by
  intro row before first engine descriptor
  let ready : Store := ⟨"s", ⟨1, [before.schema]⟩, ⟨[("t", before)]⟩, true, true, none, []⟩
  have reachable : first.Reachable engine := .afterCall .start 40 _
  have stored : engine.store = ready := by
    subst ready engine first before row
    rfl
  have atRest : engine.isAtRest = true := by
    subst engine first before row
    rfl
  rcases reachable.runsNext atRest stored rfl "t" (.deleteBy descriptor) with
    ⟨machine, atWork, store, opening, runs⟩
  have held : ready.tables.get? "t" = some before := OrderedMap.get?_insert_self .empty "t" before
  have planned : descriptor.plan before.schema = .ok ⟨none, [], true, 0, some 1⟩ := rfl
  rcases (deletes_selected_rows atWork runs opening held planned).1 rfl rfl with
    ⟨after, left, settles, found, _, members, _⟩
  refine ⟨machine, after, left, atWork, by rw [store, held], runs, settles, found, ?_, ?_⟩
  · rw [members]
    refine ⟨by simp [before, Table.scan], ?_⟩
    rintro (_ | ⟨_, ⟨⟩⟩)
  · rw [members]
    exact fun kept => kept.2 List.mem_cons_self

/-- A descriptor that demands a count as well has no row deleted, and the count is the answer. -/
theorem counts_instead_of_deleting :
    let row : Value × Record := (.integer 1, .ofList [("id", .integer 1)])
    let before : Table := ⟨⟨"t", "id", false, []⟩, ⟨[row]⟩, 2⟩
    let first : Engine := .create "s" ⟨1, [before.schema]⟩ .standard
    let engine := first.afterCall 40 (.request (.submit none "t" (.put row.2)))
    let descriptor := { Descriptor.all with count := true }
    ∃ machine collection,
      first.AtWork machine ∧ machine.RunsNext engine.nextId "t" (.deleteBy descriptor) ∧
        machine.engine.store.tables.get? "t" = some before ∧
        descriptor.plan before.schema = .ok collection ∧ collection.rows before = [row] ∧
        ∀ outcome after, machine.Settles engine.nextId outcome after →
          outcome = .ok (.result (.count 1)) ∧ after.tables.get? "t" = some before := by
  intro row before first engine descriptor
  let ready : Store := ⟨"s", ⟨1, [before.schema]⟩, ⟨[("t", before)]⟩, true, true, none, []⟩
  have reachable : first.Reachable engine := .afterCall .start 40 _
  have stored : engine.store = ready := by
    subst ready engine first before row
    rfl
  have atRest : engine.isAtRest = true := by
    subst engine first before row
    rfl
  rcases reachable.runsNext atRest stored rfl "t" (.deleteBy descriptor) with
    ⟨machine, atWork, store, opening, runs⟩
  have held : ready.tables.get? "t" = some before := OrderedMap.get?_insert_self .empty "t" before
  have keyed := atWork.keyed.open? opening
  have planned : descriptor.plan before.schema = .ok .all := rfl
  have counted := runs.answers_erasing keyed opening held planned (by decide)
  refine ⟨machine, .all, atWork, runs, by rw [store, held], planned, rfl, ?_⟩
  intro outcome after settles
  obtain ⟨rfl, rfl⟩ := settles.unique counted
  exact ⟨rfl, held⟩

end LiveTable
