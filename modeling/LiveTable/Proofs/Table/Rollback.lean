import LiveTable.Proofs.Table.Writing

/-!
# Rollback

Undoing a journal, the latest change first, takes back every sequence of writes: under
every key of every table the same record is looked up as before the writes, and every
table has as many rows as before.  Numerically equal keys of different variants are
one key throughout, so it does not matter under which of them a row was written or
deleted; only how the key is spelled may differ afterwards.

The argument is one induction over the writes, for any relation that taking one change
back restores.
-/

set_option autoImplicit false

namespace LiveTable

/-! ## Sets of tables -/

namespace Tables

/-- Tables stand under their own names, and rows in the order of their keys. -/
structure WellFormed (tables : Tables) : Prop where
  ascending : tables.Ascending
  named {name : String} {table : Table} (held : tables.get? name = some table) :
    table.name = name
  rows {name : String} {table : Table} (held : tables.get? name = some table) :
    table.rows.Ascending

theorem empty_wellFormed : WellFormed .empty where
  ascending := OrderedMap.empty_ascending
  named held := nomatch held
  rows held := nomatch held

/-- Looking up after replacing one table. -/
theorem get?_replace
    {tables : Tables} {name : String} {former : Table}
    (held : tables.get? name = some former) (table : Table) (sought : String) :
    OrderedMap.get? (tables.modify name fun _ => table) sought =
      if sought = name then some table else tables.get? sought := by
  rw [OrderedMap.get?_modify]
  by_cases same : sought = name
  · rw [if_pos same, if_pos (Std.compare_eq_iff_eq.mpr same), same, held]
    rfl
  · rw [if_neg same, if_neg (mt Std.compare_eq_iff_eq.mp same)]

theorem WellFormed.insert
    {tables : Tables} (wellFormed : tables.WellFormed)
    {name : String} {table : Table}
    (named : table.name = name) (rows : table.rows.Ascending) :
    WellFormed (OrderedMap.insert tables name table) where
  ascending := wellFormed.ascending.insert name table
  named := by
    intro sought found holds
    rw [OrderedMap.get?_insert] at holds
    split at holds
    · next same =>
        rcases Option.some.inj holds with rfl
        rw [named, Std.compare_eq_iff_eq.mp same]
    · exact wellFormed.named holds
  rows := by
    intro sought found holds
    rw [OrderedMap.get?_insert] at holds
    split at holds
    · rcases Option.some.inj holds with rfl
      exact rows
    · exact wellFormed.rows holds

theorem WellFormed.modify
    {tables : Tables} (wellFormed : tables.WellFormed) {name : String}
    {change : Table → Table}
    (changed : ∀ table, tables.get? name = some table →
      (change table).schema = table.schema ∧ (change table).rows.Ascending) :
    WellFormed (OrderedMap.modify tables name change) where
  ascending := wellFormed.ascending.modify name change
  named := by
    intro sought found holds
    rw [OrderedMap.get?_modify] at holds
    split at holds
    · next same =>
        rcases Std.compare_eq_iff_eq.mp same with rfl
        rcases Option.map_eq_some_iff.mp holds with ⟨former, held, rfl⟩
        rw [Table.name, (changed former held).1]
        exact wellFormed.named held
    · exact wellFormed.named holds
  rows := by
    intro sought found holds
    rw [OrderedMap.get?_modify] at holds
    split at holds
    · next same =>
        rcases Std.compare_eq_iff_eq.mp same with rfl
        rcases Option.map_eq_some_iff.mp holds with ⟨former, held, rfl⟩
        exact (changed former held).2
    · exact wellFormed.rows holds

/-- Changes of tables, in the order in which a transaction makes them. -/
inductive Writes : Tables → List Change → Tables → Prop where
  | none (tables : Tables) : Writes tables [] tables
  | more {tables last : Tables} {table after : Table} {change : Change}
      {changes : List Change}
      (held : tables.get? change.table = some table)
      (changed : table.Changed change after)
      (rest : Writes (tables.modify change.table fun _ => after) changes last) :
      Writes tables (change :: changes) last

theorem Writes.append
    {first middle last : Tables} {changes more : List Change}
    (early : Writes first changes middle) (late : Writes middle more last) :
    Writes first (changes ++ more) last := by
  induction early with
  | none tables => exact late
  | more held changed _ ih => exact .more held changed (ih late)

theorem WellFormed.changed
    {tables : Tables} (wellFormed : tables.WellFormed)
    {name : String} {table after : Table} {change : Change}
    (held : tables.get? name = some table) (changed : table.Changed change after) :
    WellFormed (tables.modify name fun _ => after) := by
  apply wellFormed.modify
  intro former heldFormer
  rcases Option.some.inj (held.symm.trans heldFormer) with rfl
  refine ⟨changed.schema, ?_⟩
  rw [changed.rows]
  exact change.applyTo_ascending (wellFormed.rows held)

theorem WellFormed.writes
    {first last : Tables} {changes : List Change}
    (wellFormed : first.WellFormed) (writes : Writes first changes last) :
    last.WellFormed := by
  induction writes with
  | none tables => exact wellFormed
  | more held changed _ ih => exact ih (wellFormed.changed held changed)

end Tables

/-! ## Taking changes back -/

namespace Journal

theorem undo_cons (change : Change) (changes : List Change) (tables : Tables) :
    undo (change :: changes) tables = undoChange (undo changes tables) change := by
  rw [undo, List.reverse_cons, List.foldl_append]
  rfl

/--
Taking back, the latest first, restores whatever taking back one change restores.
`Restored` relates a table after the undoing to the table before the writes.
-/
theorem undo_restores
    {Restored : Table → Table → Prop} (Reversible : Change → Prop)
    (unchanged : ∀ table : Table, table.rows.Ascending → Restored table table)
    (takenBack :
      ∀ {table after undone : Table} {change : Change},
        table.rows.Ascending → Reversible change → table.Changed change after →
          Restored undone after →
            Restored (undone.restore change.key change.before?) table)
    {first last : Tables} {changes : List Change}
    (writes : first.Writes changes last) (wellFormed : first.WellFormed)
    (reversible : ∀ change ∈ changes, Reversible change) (name : String) :
    Option.Rel Restored (OrderedMap.get? (undo changes last) name) (first.get? name) := by
  induction writes with
  | none tables =>
      change Option.Rel Restored (tables.get? name) (tables.get? name)
      cases held : tables.get? name with
      | none => exact .none
      | some table => exact .some (unchanged table (wellFormed.rows held))
  | more held changed _ ih =>
      next tables last table after change changes rest =>
      have later :=
        ih (wellFormed.changed held changed)
          fun change member => reversible change (List.mem_cons_of_mem _ member)
      rw [Tables.get?_replace held] at later
      rw [undo_cons, undoChange, OrderedMap.get?_modify]
      by_cases same : name = change.table
      · rw [if_pos same] at later
        rw [if_pos (Std.compare_eq_iff_eq.mpr same), same, held]
        rw [same] at later
        cases undone : OrderedMap.get? (undo changes last) change.table with
        | none => rw [undone] at later; nomatch later
        | some found =>
            rw [undone] at later
            cases later with
            | some restored =>
                exact .some (takenBack (wellFormed.rows held)
                  (reversible change List.mem_cons_self) changed restored)
      · rw [if_neg same] at later
        rw [if_neg (mt Std.compare_eq_iff_eq.mp same)]
        exact later

end Journal

/-! ## Contents -/

/-- Two tables look the same record up under every key, and have equally many rows. -/
structure Table.SameContents (first second : Table) : Prop where
  get? (key : Value) : first.get? key = second.get? key
  size : first.rows.size = second.rows.size

/-- Two tables in the order of their keys look the same record up under every key. -/
structure Table.Alike (first second : Table) : Prop where
  firstAscending : first.rows.Ascending
  secondAscending : second.rows.Ascending
  get? (key : Value) : first.get? key = second.get? key

theorem Table.Alike.sameContents {first second : Table} (alike : first.Alike second) :
    first.SameContents second where
  get? := alike.get?
  size := alike.firstAscending.size_eq alike.secondAscending alike.get?

/-- The same tables with the same contents. -/
def Tables.SameContents (first second : Tables) : Prop :=
  ∀ name : String, Option.Rel Table.SameContents (first.get? name) (second.get? name)

theorem Table.get?_restore (table : Table) (key sought : Value) (held? : Option Record) :
    (table.restore key held?).get? sought =
      if compare sought key = .eq then held? else table.get? sought := by
  cases held? with
  | some record => exact table.rows.get?_insert key sought record
  | none => exact table.rows.get?_erase key sought

theorem Table.restore_ascending
    {table : Table} (ascending : table.rows.Ascending) (key : Value) (held? : Option Record) :
    (table.restore key held?).rows.Ascending := by
  cases held? with
  | some record => exact ascending.insert key record
  | none => exact ascending.erase key

/-- Taking one change back restores what is looked up. -/
theorem Table.Changed.alike_restore
    {table after undone : Table} {change : Change}
    (changed : table.Changed change after) (ascending : table.rows.Ascending)
    (alike : undone.Alike after) :
    (undone.restore change.key change.before?).Alike table where
  firstAscending := Table.restore_ascending alike.firstAscending _ _
  secondAscending := ascending
  get? key := by
    rw [Table.get?_restore]
    by_cases same : compare key change.key = .eq
    · rw [if_pos same, changed.held]
      exact (OrderedMap.get?_congr same table.rows).symm
    · rw [if_neg same, alike.get? key, Table.get?, changed.rows, Change.get?_applyTo,
        if_neg same]
      rfl

/-- Undoing all changes restores the contents of all tables. -/
theorem Tables.Writes.undo_sameContents
    {first last : Tables} {changes : List Change}
    (writes : first.Writes changes last) (wellFormed : first.WellFormed) :
    Tables.SameContents (Journal.undo changes last) first := by
  intro name
  have restored :
      Option.Rel Table.Alike
        (OrderedMap.get? (Journal.undo changes last) name) (first.get? name) := by
    apply Journal.undo_restores (fun _ => True) _ _ writes wellFormed
    · exact fun _ _ => trivial
    · exact fun _ ascending => ⟨ascending, ascending, fun _ => rfl⟩
    · exact fun ascending _ changed alike => changed.alike_restore ascending alike
  generalize OrderedMap.get? (Journal.undo changes last) name = undone? at restored ⊢
  generalize first.get? name = table? at restored ⊢
  cases restored with
  | some alike => exact .some alike.sameContents
  | none => exact .none

/-! ## Rows restored to the letter -/

/-- Two tables have one schema and the same rows under the same keys. -/
structure Table.SameRows (first second : Table) : Prop where
  schema : first.schema = second.schema
  rows : first.rows = second.rows

theorem Table.SameRows.refl (table : Table) : table.SameRows table :=
  ⟨rfl, rfl⟩

theorem Table.restore_schema (table : Table) (key : Value) (held? : Option Record) :
    (table.restore key held?).schema = table.schema := by
  cases held? <;> rfl

/-- Taking back what was put leaves the rows as they were, down to the spelling of keys. -/
theorem Table.Changed.sameRows_restore
    {table after undone : Table} {change : Change}
    (changed : table.Changed change after) (put : change.after?.isSome)
    (ascending : table.rows.Ascending) (sameRows : undone.SameRows after) :
    (undone.restore change.key change.before?).SameRows table := by
  rcases Option.isSome_iff_exists.mp put with ⟨record, stored⟩
  have rows : undone.rows = table.rows.insert change.key record := by
    rw [sameRows.rows, changed.rows, Change.applyTo, stored]
  constructor
  · rw [Table.restore_schema, sameRows.schema, changed.schema]
  · rw [changed.held]
    cases held : table.get? change.key with
    | some former =>
        show undone.rows.insert change.key former = table.rows
        rw [rows]
        exact ascending.insert_insert held record
    | none =>
        show undone.rows.erase change.key = table.rows
        rw [rows]
        exact OrderedMap.erase_insert held record

/-- Undoing changes that put records, and delete none, restores the rows of all tables. -/
theorem Tables.Writes.undo_sameRows
    {first last : Tables} {changes : List Change}
    (writes : first.Writes changes last) (wellFormed : first.WellFormed)
    (puts : ∀ change ∈ changes, change.after?.isSome) (name : String) :
    Option.Rel Table.SameRows
      (OrderedMap.get? (Journal.undo changes last) name) (first.get? name) := by
  apply Journal.undo_restores (fun change => change.after?.isSome) _ _ writes wellFormed puts
  · exact fun table _ => .refl table
  · exact fun ascending put changed sameRows =>
      changed.sameRows_restore put ascending sameRows

/-- Undoing keeps tables under their names and rows in order. -/
theorem Tables.WellFormed.undo
    {tables : Tables} (wellFormed : tables.WellFormed) (changes : List Change) :
    WellFormed (Journal.undo changes tables) := by
  induction changes with
  | nil => exact wellFormed
  | cons change rest ih =>
      rw [Journal.undo_cons]
      apply ih.modify
      intro table held
      exact ⟨table.restore_schema _ _, Table.restore_ascending (ih.rows held) _ _⟩

/-! ## Transactions -/

/-- A write of a transaction on one of several tables. -/
inductive TableWrite where
  | put (table : String) (record : Record) (key? : Option Value)
  | delete (table : String) (key : Value)

/-- What a transaction attempts on a table takes effect where it succeeds. -/
def Tables.attempt {α : Type} (pool : Tables × Transaction) (name : String)
    (write : Transaction → Table → Except Error (α × Table × Transaction)) :
    Tables × Transaction :=
  match pool.1.get? name with
  | none => pool
  | some table =>
    match write pool.2 table with
    | .error _ => pool
    | .ok (_, after, transaction) => (pool.1.modify name fun _ => after, transaction)

/-- Carries out a write; one that is refused changes nothing. -/
def TableWrite.perform (pool : Tables × Transaction) : TableWrite → Tables × Transaction
  | .put name record key? =>
    Tables.attempt pool name fun transaction table => transaction.put table record key?
  | .delete name key =>
    Tables.attempt pool name fun transaction table => transaction.delete table key

/-- A write is at most one change, which ends the journal. -/
theorem TableWrite.perform_writes
    (pool : Tables × Transaction) (wellFormed : pool.1.WellFormed) (write : TableWrite) :
    ∃ changes : List Change,
      pool.1.Writes changes (write.perform pool).1 ∧
        (write.perform pool).2.journal = pool.2.journal ++ changes := by
  have untouched :
      ∃ changes : List Change,
        pool.1.Writes changes pool.1 ∧ pool.2.journal = pool.2.journal ++ changes :=
    ⟨[], .none _, (List.append_nil _).symm⟩
  have noted
      {name : String} {table after : Table} {transaction : Transaction} {change : Change}
      (held : pool.1.get? name = some table) (changed : table.Changed change after)
      (kept : transaction = pool.2.note change) :
      ∃ changes : List Change,
        pool.1.Writes changes (pool.1.modify name fun _ => after) ∧
          transaction.journal = pool.2.journal ++ changes := by
    have sameName : change.table = name := changed.name.trans (wellFormed.named held)
    subst kept
    subst sameName
    exact ⟨[change], .more held changed (.none _), rfl⟩
  cases write with
  | put name record key? =>
      simp only [perform, Tables.attempt]
      split
      · exact untouched
      · next held =>
          split
          · exact untouched
          · next written =>
              rcases Transaction.put_ok written with ⟨_, _, changed, kept⟩
              exact noted held changed kept
  | delete name key =>
      simp only [perform, Tables.attempt]
      split
      · exact untouched
      · next held =>
          split
          · exact untouched
          · next done =>
              rcases Transaction.delete_ok done with
                ⟨_, _, rfl, rfl⟩ | ⟨_, _, _, changed, kept⟩
              · rw [wellFormed.ascending.modify_self held]
                exact untouched
              · exact noted held changed kept

theorem TableWrite.foldl_writes
    (writes : List TableWrite) (pool : Tables × Transaction) (wellFormed : pool.1.WellFormed) :
    ∃ changes : List Change,
      pool.1.Writes changes (writes.foldl perform pool).1 ∧
        (writes.foldl perform pool).2.journal = pool.2.journal ++ changes := by
  induction writes generalizing pool with
  | nil => exact ⟨[], .none _, (List.append_nil _).symm⟩
  | cons write rest ih =>
      rcases write.perform_writes pool wellFormed with ⟨changes, made, noted⟩
      rcases ih (write.perform pool) (wellFormed.writes made) with ⟨more, later, kept⟩
      refine ⟨changes ++ more, made.append later, ?_⟩
      rw [List.foldl_cons, kept, noted, List.append_assoc]

/-- Writes in a workspace are writes of its table among the others. -/
theorem Workspace.Writes.toTables
    {first last : Workspace} {changes : List Change}
    (writes : first.Writes changes last)
    {tables : Tables} (wellFormed : tables.WellFormed)
    {name : String} (held : tables.get? name = some first.table) :
    tables.Writes changes (tables.modify name fun _ => last.table) := by
  induction writes generalizing tables with
  | none space =>
      rw [wellFormed.ascending.modify_self held]
      exact .none tables
  | more changed noted rest ih =>
      next first middle last change changes =>
      have sameName : change.table = name := changed.name.trans (wellFormed.named held)
      subst sameName
      refine .more held changed ?_
      have stored := Tables.get?_replace held middle.table change.table
      rw [if_pos rfl] at stored
      have later := ih (wellFormed.changed held changed) stored
      rwa [OrderedMap.modify_modify] at later

end LiveTable
