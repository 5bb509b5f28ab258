import LiveTable.Proofs.Table.Rollback
import LiveTable.Store.Basic

/-!
# Transactions of a store

What a transaction of a store comes to, said once for each way in which it is refused and
once each for work that succeeds and work that fails.  The main statement is that failed work leaves no trace in what can
be looked up.
-/

set_option autoImplicit false

namespace LiveTable

namespace Store

variable {Failure α : Type} {refuse : Error → Failure} {store : Store} {mode : AccessMode}
  {name : String} {table : Table} {work : Workspace → Except Failure α × Workspace}
  {space : Workspace}

theorem transaction_closed (isOpen : store.isOpen = false) :
    store.transaction refuse mode name work = (.error (refuse .storeClosed), store) := by
  simp [transaction, isOpen]

theorem transaction_missing (isOpen : store.isOpen) (held : store.tables.get? name = none) :
    store.transaction refuse mode name work =
      (.error (refuse (.tableNotFound name)), store) := by
  simp [transaction, isOpen, held]

theorem transaction_ok
    {answer : α}
    (isOpen : store.isOpen) (held : store.tables.get? name = some table)
    (done : work ⟨table, .begin name mode⟩ = (.ok answer, space)) :
    store.transaction refuse mode name work =
      (.ok answer,
        { store with tables := store.tables.modify name fun _ => space.table }.publish
          space.transaction.journal) := by
  rw [transaction, if_neg (by simp [isOpen]), held]
  simp only [done]

theorem transaction_error
    {failure : Failure}
    (isOpen : store.isOpen) (held : store.tables.get? name = some table)
    (failed : work ⟨table, .begin name mode⟩ = (.error failure, space)) :
    store.transaction refuse mode name work =
      (.error failure,
        { store with
          tables := space.transaction.journal.undo
            (store.tables.modify name fun _ => space.table) }) := by
  rw [transaction, if_neg (by simp [isOpen]), held]
  simp only [failed]

end Store

/--
After a rollback every table has the contents that it had before, whatever a
transaction has written to however many tables.  Therefore a transaction of a store
whose work fails leaves the contents of every table and the outbox as they were, and
fails with the failure of the work.  The work is any that does nothing to its
workspace but write.
-/
theorem rollback_restores_contents
    {tables : Tables} (wellFormed : tables.WellFormed) :
    (∀ (begun : String) (mode : AccessMode) (writes : List TableWrite),
      let pool := writes.foldl TableWrite.perform (tables, .begin begun mode)
      (pool.2.journal.undo pool.1).SameContents tables) ∧
    (∀ {Failure α : Type} (refuse : Error → Failure) (store : Store) (mode : AccessMode)
      (name : String) (table : Table) (work : Workspace → Except Failure α × Workspace)
      (failure : Failure),
      store.tables = tables → store.isOpen → tables.get? name = some table →
      (∀ space : Workspace, ∃ changes, space.Writes changes (work space).2) →
      (work ⟨table, .begin name mode⟩).1 = .error failure →
        (store.transaction refuse mode name work).1 = .error failure ∧
        (store.transaction refuse mode name work).2.tables.SameContents tables ∧
        (store.transaction refuse mode name work).2.outbox = store.outbox) := by
  constructor
  · intro begun mode writes
    obtain ⟨changes, made, noted⟩ :=
      TableWrite.foldl_writes writes (tables, .begin begun mode) wellFormed
    change Tables.SameContents (Journal.undo _ _) tables
    rw [noted]
    exact made.undo_sameContents wellFormed
  · intro Failure α refuse store mode name table work failure same isOpen held journaled failed
    subst same
    rcases journaled ⟨table, .begin name mode⟩ with ⟨changes, writes⟩
    have made := writes.toTables wellFormed held
    have noted := writes.journal
    have outcome :
        work ⟨table, .begin name mode⟩ =
          (.error failure, (work ⟨table, .begin name mode⟩).2) := by
      rw [← failed]
    rw [Store.transaction_error isOpen held outcome]
    refine ⟨rfl, ?_, rfl⟩
    rw [noted]
    exact made.undo_sameContents wellFormed

/-- A list of records whose second has no key leaves the row that the first one replaced. -/
theorem rollback_restores_replaced_row :
    let row : Value × Record := (.integer 1, .ofList [("id", .integer 1)])
    let table : Table := ⟨⟨"t", "id", false, []⟩, ⟨[row]⟩, 2⟩
    let store : Store := ⟨"s", ⟨1, [table.schema]⟩, ⟨[("t", table)]⟩, true, true, none, []⟩
    let work := Work.runOn (Work.putAll [.ofList [("id", .float (.ofInt 1))], .empty])
    (store.transaction id .readWrite "t" work).1 = .error (.missingKey "t") ∧
      (store.transaction id .readWrite "t" work).2.tables.SameContents store.tables ∧
      (store.transaction id .readWrite "t" work).2.outbox = store.outbox := by
  intro row table store work
  have wellFormed : store.tables.WellFormed :=
    Tables.empty_wellFormed.insert (show table.name = "t" from rfl)
      (List.pairwise_singleton _ _)
  have held : store.tables.get? "t" = some table :=
    OrderedMap.get?_insert_self .empty "t" table
  have failed : (work ⟨table, .begin "t" .readWrite⟩).1 = .error (.missingKey "t") := by
    have verdict :
        (match (work ⟨table, .begin "t" .readWrite⟩).1 with
          | .error error => decide (error = .missingKey "t")
          | .ok _ => false) = true := by
      subst work table row
      decide +kernel
    split at verdict
    · next error outcome => rw [outcome, of_decide_eq_true verdict]
    · contradiction
  exact (rollback_restores_contents wellFormed).2 id store .readWrite "t" table work
    (.missingKey "t") rfl rfl held (Work.Journaled.putAll _) failed

end LiveTable
