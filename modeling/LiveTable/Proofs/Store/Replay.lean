import LiveTable.Proofs.Store.Requests
import LiveTable.Proofs.Store.Transaction

/-!
# Replaying changes

The changes of a committed transaction, replayed in their order on the tables before it,
make the rows after it.  Every change describes what was stored just before it and what is
stored just after it, and only writes that take effect leave one: a put that is refused and
a deletion that finds nothing leave none.

Replaying knows nothing of the keys that tables allocate, so it is compared with the
transaction row by row: `Tables.SameRows`.
-/

set_option autoImplicit false

namespace LiveTable

/-! ## Replay -/

/-- The tables that a change makes of those before it; only rows change. -/
def Change.redo (tables : Tables) (change : Change) : Tables :=
  tables.modify change.table fun table => { table with rows := change.applyTo table.rows }

/-- The tables that changes make of those before them, in their order. -/
def Journal.replay (journal : Journal) (tables : Tables) : Tables :=
  journal.foldl Change.redo tables

/-- The record that a set of tables has under a key of a table. -/
def Tables.stored? (tables : Tables) (name : String) (key : Value) : Option Record :=
  (tables.get? name).bind (·.get? key)

/-- A change says what is stored under its key before it and after it. -/
structure Change.Describes (change : Change) (tables : Tables) : Prop where
  created : change.kind = .create ↔ tables.stored? change.table change.key = none
  found : (change.kind = .update ∨ change.kind = .delete) ↔
    (tables.stored? change.table change.key).isSome
  before : change.before? = tables.stored? change.table change.key
  after : change.after? = (change.redo tables).stored? change.table change.key

/-- The same tables with the same rows under the same keys. -/
def Tables.SameRows (first second : Tables) : Prop :=
  ∀ name : String, Option.Rel Table.SameRows (first.get? name) (second.get? name)

/-- A journal leads from some tables to others, and describes every step of the way. -/
structure Journal.Faithful (journal : Journal) (before after : Tables) : Prop where
  replay : (journal.replay before).SameRows after
  describes {early late : List Change} {change : Change}
    (listed : journal = early ++ change :: late) :
    change.Describes (Journal.replay early before)

theorem Change.TakesEffect.kind_create
    {change : Change} (effective : change.TakesEffect) :
    change.kind = .create ↔ change.before? = none := by
  rcases change with ⟨table, key, after?, before?⟩
  cases after? <;> cases before? <;> simp_all [TakesEffect, kind]

theorem Change.TakesEffect.kind_found
    {change : Change} (effective : change.TakesEffect) :
    (change.kind = .update ∨ change.kind = .delete) ↔ change.before?.isSome := by
  rcases change with ⟨table, key, after?, before?⟩
  cases after? <;> cases before? <;> simp_all [TakesEffect, kind]

theorem Tables.SameRows.refl (tables : Tables) : tables.SameRows tables := by
  intro name
  cases tables.get? name with
  | none => exact .none
  | some table => exact .some (.refl table)

theorem Change.get?_redo (change : Change) (tables : Tables) (name : String) :
    (change.redo tables).get? name =
      if name = change.table then
        (tables.get? name).map fun table => { table with rows := change.applyTo table.rows }
      else tables.get? name := by
  rw [redo, OrderedMap.get?_modify]
  simp only [Std.compare_eq_iff_eq]

/-- Tables that have the same rows as those before a change, have those after it when it is redone. -/
theorem Table.Changed.redo_sameRows
    {shadow tables : Tables} {table after : Table} {change : Change}
    (changed : table.Changed change after) (held : tables.get? change.table = some table)
    (same : shadow.SameRows tables) :
    (change.redo shadow).SameRows (tables.modify change.table fun _ => after) := by
  intro name
  rw [change.get?_redo, Tables.get?_replace held]
  by_cases own : name = change.table
  · subst own
    have sameHere := same change.table
    rw [held] at sameHere
    simp only [if_true]
    cases shown : shadow.get? change.table with
    | none =>
        rw [shown] at sameHere
        nomatch sameHere
    | some copy =>
        rw [shown] at sameHere
        rcases sameHere with ⟨⟨schema, rows⟩⟩
        refine .some ⟨?_, ?_⟩
        · exact schema.trans changed.schema.symm
        · exact (congrArg change.applyTo rows).trans changed.rows.symm
  · simp only [own, if_false]
    exact same name

/-- A change that takes effect describes tables with the same rows as those it happened to. -/
theorem Table.Changed.describes
    {shadow tables : Tables} {table after : Table} {change : Change}
    (changed : table.Changed change after) (effective : change.TakesEffect)
    (held : tables.get? change.table = some table) (same : shadow.SameRows tables) :
    change.Describes shadow := by
  have sameHere := same change.table
  rw [held] at sameHere
  cases shown : shadow.get? change.table with
  | none =>
      rw [shown] at sameHere
      nomatch sameHere
  | some copy =>
      rw [shown] at sameHere
      rcases sameHere with ⟨⟨_, rows⟩⟩
      have before : change.before? = shadow.stored? change.table change.key := by
        rw [Tables.stored?, shown, changed.held]
        simp [Table.get?, rows]
      have after : change.after? = (change.redo shadow).stored? change.table change.key := by
        rw [Tables.stored?, change.get?_redo, if_pos rfl, shown]
        simp [Table.get?, Change.get?_applyTo, Std.ReflCmp.compare_self]
      constructor
      · rw [← before]
        exact effective.kind_create
      · rw [← before]
        exact effective.kind_found
      · exact before
      · exact after

namespace Tables.Writes

variable {first last : Tables} {changes : List Change}

/-- Replayed on tables with the same rows, changes lead to tables with the same rows. -/
theorem replay_sameRows
    (writes : first.Writes changes last) {shadow : Tables} (same : shadow.SameRows first) :
    (Journal.replay changes shadow).SameRows last := by
  induction writes generalizing shadow with
  | none tables => exact same
  | more held changed _ ih => exact ih (changed.redo_sameRows held same)

theorem describes
    (writes : first.Writes changes last)
    (effective : ∀ change ∈ changes, change.TakesEffect)
    {shadow : Tables} (same : shadow.SameRows first)
    {early late : List Change} {change : Change} (listed : changes = early ++ change :: late) :
    change.Describes (Journal.replay early shadow) := by
  induction writes generalizing shadow early with
  | none tables => simp at listed
  | more held changed _ ih =>
      cases early with
      | nil =>
          rcases List.cons.inj listed with ⟨rfl, _⟩
          exact changed.describes (effective _ List.mem_cons_self) held same
      | cons head early =>
          rcases List.cons.inj listed with ⟨rfl, rest⟩
          exact ih (fun change member => effective change (List.mem_cons_of_mem _ member))
            (changed.redo_sameRows held same) rest

theorem faithful
    (writes : first.Writes changes last)
    (effective : ∀ change ∈ changes, change.TakesEffect) :
    Journal.Faithful changes first last where
  replay := writes.replay_sameRows (.refl first)
  describes := writes.describes effective (.refl first)

end Tables.Writes

/-! ## Entries -/

/-- The change that a write comes to on some tables, if it comes to one. -/
def TableWrite.logged? (tables : Tables) : TableWrite → Option Change
  | .put name record key? =>
    match tables.get? name with
    | none => none
    | some table =>
      match table.resolve record key? with
      | .error _ => none
      | .ok (key, stored) => some (.put name key stored (table.get? key))
  | .delete name key =>
    (tables.stored? name key).map fun deleted => .delete name key deleted

theorem Transaction.put_refused
    {transaction : Transaction} (writable : transaction.mode = .readWrite)
    {table : Table} {record : Record} {given? : Option Value} {error : Error}
    (refused : transaction.put table record given? = .error error) :
    table.resolve record given? = .error error := by
  have checked : transaction.checkWritable = .ok () := by
    rw [checkWritable, writable]
  simp only [put, Table.put, checked, bind, Except.bind, pure, Except.pure] at refused
  cases resolved : table.resolve record given? with
  | error other => simpa [resolved] using refused
  | ok found => simp [resolved] at refused

theorem Transaction.delete_permitted
    {transaction : Transaction} (writable : transaction.mode = .readWrite)
    (table : Table) (key : Value) :
    ∃ outcome, transaction.delete table key = .ok outcome := by
  have checked : transaction.checkWritable = .ok () := by
    rw [checkWritable, writable]
  cases found : table.get? key <;>
    simp [delete, checked, found, bind, Except.bind, pure, Except.pure]

namespace TableWrite

/-- A write of a read-write transaction is its entry, which the journal gains. -/
theorem perform_entry
    {pool : Tables × Transaction} (wellFormed : pool.1.WellFormed)
    (writable : pool.2.mode = .readWrite) (write : TableWrite) :
    pool.1.Writes (write.logged? pool.1).toList (write.perform pool).1 ∧
      (write.perform pool).2 = (write.logged? pool.1).elim pool.2 pool.2.note := by
  cases write with
  | put name record key? =>
      simp only [perform, Tables.attempt, logged?]
      cases held : pool.1.get? name with
      | none => exact ⟨.none _, rfl⟩
      | some table =>
          have named : table.name = name := wellFormed.named held
          subst named
          cases written : pool.2.put table record key? with
          | error error =>
              simp only [written, Transaction.put_refused writable written]
              exact ⟨.none _, rfl⟩
          | ok outcome =>
              rcases Transaction.put_ok written with ⟨stored, resolved, changed, noted⟩
              simp only [written, resolved]
              exact ⟨.more held changed (.none _), noted⟩
  | delete name key =>
      simp only [perform, Tables.attempt, logged?, Tables.stored?]
      cases held : pool.1.get? name with
      | none => exact ⟨.none _, rfl⟩
      | some table =>
          have named : table.name = name := wellFormed.named held
          subst named
          rcases Transaction.delete_permitted writable table key with ⟨⟨deleted, after, left⟩, done⟩
          rcases Transaction.delete_ok done with
            ⟨absent, _, rfl, rfl⟩ | ⟨record, found, _, changed, noted⟩
          · simp only [done, absent, Option.bind_some]
            rw [wellFormed.ascending.modify_self held]
            exact ⟨.none _, rfl⟩
          · simp only [done, found, Option.bind_some]
            exact ⟨.more held changed (.none _), noted⟩

theorem logged?_takesEffect
    {tables : Tables} {write : TableWrite} {change : Change}
    (entry : write.logged? tables = some change) : change.TakesEffect := by
  cases write with
  | put name record key? =>
      simp only [logged?] at entry
      split at entry
      · contradiction
      · split at entry
        · contradiction
        · rcases Option.some.inj entry with rfl
          exact fun missing => nomatch missing
  | delete name key =>
      rcases Option.map_eq_some_iff.mp entry with ⟨record, _, rfl⟩
      exact fun _ => rfl

/-- What holds of the pool of a read-write transaction, however many writes it has performed. -/
structure Performed (before : Tables) (pool : Tables × Transaction) : Prop where
  writable : pool.2.mode = .readWrite
  writes : before.Writes pool.2.journal pool.1
  effective : ∀ change ∈ pool.2.journal, change.TakesEffect

theorem Performed.perform
    {before : Tables} {pool : Tables × Transaction} (performed : Performed before pool)
    (wellFormed : before.WellFormed) (write : TableWrite) :
    Performed before (write.perform pool) := by
  rcases perform_entry (wellFormed.writes performed.writes) performed.writable write with
    ⟨writes, left⟩
  have later := performed.writes.append writes
  cases entry : write.logged? pool.1 with
  | none =>
      rw [entry] at left later
      simp only [Option.elim_none, Option.toList_none, List.append_nil] at left later
      constructor
      · rw [left]; exact performed.writable
      · rw [left]; exact later
      · rw [left]; exact performed.effective
  | some change =>
      rw [entry] at left later
      simp only [Option.elim_some, Option.toList_some] at left later
      constructor
      · rw [left]; exact performed.writable
      · rw [left]; exact later
      · rw [left]
        intro other member
        rcases List.mem_append.mp member with earlier | last
        · exact performed.effective other earlier
        · rw [List.mem_singleton.mp last]
          exact logged?_takesEffect entry

theorem Performed.foldl
    {before : Tables} (wellFormed : before.WellFormed) (writes : List TableWrite)
    {pool : Tables × Transaction} (performed : Performed before pool) :
    Performed before (writes.foldl TableWrite.perform pool) := by
  induction writes generalizing pool with
  | nil => exact performed
  | cons write rest ih => exact ih (performed.perform wellFormed write)

end TableWrite

/-! ## Committing -/

/--
The changes of a read-write transaction are a faithful log of it: replayed in their order
on the tables before it they make the rows after it, and every one of them describes what
is stored just before it and just after it.  A write leaves just the entry that it comes
to, so a put that is refused and a deletion that finds nothing leave none.

So much is said of a transaction that writes to however many tables, and of one that a
store commits for work on one table: the batch that the store puts into its outbox is
such a log.  The work is any that puts and deletes.
-/
theorem commit_logs_faithfully
    {tables : Tables} (wellFormed : tables.WellFormed) :
    (∀ (begun : String) (writes : List TableWrite),
      let pool := writes.foldl TableWrite.perform (tables, .begin begun .readWrite)
      pool.2.journal.Faithful tables pool.1 ∧
        ∀ write : TableWrite,
          (write.perform pool).2.journal =
            pool.2.journal ++ (write.logged? pool.1).toList) ∧
    (∀ {Failure α : Type} (refuse : Error → Failure) (store : Store) (mode : AccessMode)
      (name : String) (table : Table) (work : Workspace → Except Failure α × Workspace)
      (answer : α),
      store.tables = tables → store.isOpen → tables.get? name = some table →
      (∀ space : Workspace, space.Reaches (work space).2) →
      (work ⟨table, .begin name mode⟩).1 = .ok answer →
        let journal := (work ⟨table, .begin name mode⟩).2.transaction.journal
        ∃ after, store.transaction refuse mode name work = (.ok answer, after) ∧
          after.outbox = Store.enqueue store.outbox journal ∧
          journal.Faithful tables after.tables) ∧
    (∀ (space : Workspace) (record : Record) (key? : Option Value) (error : Error),
      (Work.runOn (Work.put record key?) space).1 = .error error →
        (Work.runOn (Work.put record key?) space).2 = space) ∧
    (∀ (space : Workspace) (key : Value),
      (Work.runOn (Work.delete key) space).1 = .ok false →
        (Work.runOn (Work.delete key) space).2 = space) := by
  refine ⟨?_, ?_, ?_, ?_⟩
  · intro begun writes
    have begins : TableWrite.Performed tables (tables, .begin begun .readWrite) := {
      writable := rfl
      writes := .none tables
      effective := by simp [Transaction.begin] }
    have performed := begins.foldl wellFormed writes
    refine ⟨performed.writes.faithful performed.effective, ?_⟩
    intro write
    rw [(TableWrite.perform_entry (wellFormed.writes performed.writes) performed.writable write).2]
    cases write.logged? (writes.foldl TableWrite.perform (tables, .begin begun .readWrite)).1 <;>
      simp [Transaction.note]
  · intro Failure α refuse store mode name table work answer same isOpen held puts done
    subst same
    cases ran : work ⟨table, .begin name mode⟩ with
    | mk outcome space =>
        rw [ran] at done
        subst done
        have reached := puts ⟨table, .begin name mode⟩
        rw [ran] at reached
        rcases reached.writes with ⟨changes, writes, effective⟩
        have noted : space.transaction.journal = changes := writes.journal
        refine ⟨_, Store.transaction_ok isOpen held ran, rfl, ?_⟩
        rw [noted]
        exact (writes.toTables wellFormed held).faithful effective
  · exact fun _ _ _ _ => Work.runOn_put_refused
  · exact fun _ _ absent => Work.runOn_delete_vain (by simp [absent])

/--
A row is replaced under another spelling of its key, deleted and created anew; the put
without a key and the deletion of what is not there leave no entry.
-/
theorem commit_logs_replaced_row :
    let row : Value × Record := (.integer 1, .ofList [("id", .integer 1)])
    let table : Table := ⟨⟨"t", "id", false, []⟩, ⟨[row]⟩, 2⟩
    let store : Store := ⟨"s", ⟨1, [table.schema]⟩, ⟨[("t", table)]⟩, true, true, none, []⟩
    let work := OperationStep.performAll []
      [⟨.put (.ofList [("id", .float (.ofInt 1))]) none, false⟩, ⟨.put .empty none, true⟩,
        ⟨.delete (.integer 1), false⟩, ⟨.delete (.integer 7), false⟩,
        ⟨.put (.ofList [("id", .integer 1)]) none, false⟩]
    ∃ (answers : List Answer) (journal : Journal) (after : Store),
      store.transaction (OperationFailure.mk · []) .readWrite "t" work = (.ok answers, after) ∧
        after.outbox = [journal] ∧ journal.map Change.kind = [.update, .delete, .create] ∧
        journal.Faithful store.tables after.tables := by
  intro row table store work
  have wellFormed : store.tables.WellFormed :=
    Tables.empty_wellFormed.insert (show table.name = "t" from rfl)
      (List.pairwise_singleton _ _)
  have held : store.tables.get? "t" = some table :=
    OrderedMap.get?_insert_self .empty "t" table
  have kinds :
      (work ⟨table, .begin "t" .readWrite⟩).2.transaction.journal.map Change.kind =
        [.update, .delete, .create] := by
    subst work table row
    decide +kernel
  have succeeds : (work ⟨table, .begin "t" .readWrite⟩).1.isOk := by
    subst work table row
    decide +kernel
  cases done : (work ⟨table, .begin "t" .readWrite⟩).1 with
  | error failure =>
      rw [done] at succeeds
      contradiction
  | ok answers =>
      rcases (commit_logs_faithfully wellFormed).2.1 (OperationFailure.mk · []) store .readWrite
        "t" table work answers rfl rfl held (OperationStep.performAll_reaches _ []) done with
        ⟨after, committed, announced, faithful⟩
      refine ⟨answers, _, after, committed, announced.trans ?_, kinds, faithful⟩
      rw [Store.enqueue, if_neg]
      · rfl
      · intro none
        rw [List.isEmpty_iff.mp none] at kinds
        contradiction

end LiveTable
