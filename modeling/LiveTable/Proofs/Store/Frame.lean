import LiveTable.Proofs.Store.Commits

/-!
# What a transaction leaves alone

A transaction is begun on one table, to read it or to read and write it.  Every write of
whatever work goes through the transaction, and a read-only one refuses it before a key is
resolved.  So work in a read-only transaction reaches no workspace but the one that it
began with, and the store is afterwards what it was, however the work ends.

A transaction that writes does so in the one table: no other table is changed, neither by
the writes nor by taking them back, and all that it may put into the outbox are changes of
that table.
-/

set_option autoImplicit false

namespace LiveTable

/-! ## Reading -/

namespace Transaction

variable {transaction : Transaction}

/-- A put is refused before the record is looked at, so that no key is allocated. -/
theorem put_readOnly (readOnly : transaction.mode = .readOnly)
    (table : Table) (record : Record) (given? : Option Value) :
    transaction.put table record given? = .error (.readOnlyTransaction transaction.table) := by
  simp only [put, checkWritable, readOnly, bind, Except.bind]

/-- A deletion is refused even where there is nothing to delete. -/
theorem delete_readOnly (readOnly : transaction.mode = .readOnly) (table : Table) (key : Value) :
    transaction.delete table key = .error (.readOnlyTransaction transaction.table) := by
  simp only [delete, checkWritable, readOnly, bind, Except.bind]

end Transaction

/-- Nothing is written in a read-only transaction, so nothing is reached but the beginning. -/
theorem Workspace.Reaches.of_readOnly {first last : Workspace} (reaches : first.Reaches last)
    (readOnly : first.transaction.mode = .readOnly) : last = first := by
  cases reaches with
  | refl => rfl
  | put written _ =>
      rw [Transaction.put_readOnly readOnly] at written
      contradiction
  | delete done _ =>
      rw [Transaction.delete_readOnly readOnly] at done
      contradiction

/-! ## Other tables -/

/-- Taking changes back concerns the tables of the changes, and no other. -/
theorem Journal.get?_undo_of_elsewhere {journal : Journal} {other : String}
    (elsewhere : ∀ change ∈ journal, change.table ≠ other) (tables : Tables) :
    (journal.undo tables).get? other = tables.get? other := by
  induction journal with
  | nil => rfl
  | cons change earlier ih =>
      rcases List.forall_mem_cons.mp elsewhere with ⟨here, there⟩
      have apart : compare other change.table ≠ .eq := by
        intro same
        exact here (Std.compare_eq_iff_eq.mp same).symm
      rw [undo_cons, undoChange, OrderedMap.get?_modify, if_neg apart, ih there]

namespace Store

/--
What a transaction on a table may do to a store: one that only reads does nothing at all,
neither to rows and counters nor to the outbox; any other changes no other table, and puts
nothing into the outbox but changes of its own.
-/
structure Framed (name : String) (mode : AccessMode) (before after : Store) : Prop where
  reading : mode = .readOnly → after = before
  elsewhere {other : String} (apart : other ≠ name) :
    after.tables.get? other = before.tables.get? other
  announces : ∃ committed, after.outbox = before.outbox ++ committed ∧
    ∀ batch ∈ committed, ∀ change ∈ batch, change.table = name

variable {Failure α : Type} {store : Store} {mode : AccessMode} {name : String} {table : Table}
  {work : Workspace → Except Failure α × Workspace}

theorem Framed.refl (name : String) (mode : AccessMode) (store : Store) :
    Framed name mode store store where
  reading _ := rfl
  elsewhere _ := rfl
  announces := ⟨[], (List.append_nil _).symm, List.forall_mem_nil _⟩

/-- A read-only transaction leaves the store as it was, whether its work succeeds or fails. -/
theorem transaction_readOnly
    (refuse : Error → Failure) (isOpen : store.isOpen) (ascending : store.tables.Ascending)
    (held : store.tables.get? name = some table)
    (reaches : ∀ space : Workspace, space.Reaches (work space).2) :
    (store.transaction refuse .readOnly name work).2 = store := by
  have untouched := (reaches ⟨table, .begin name .readOnly⟩).of_readOnly rfl
  cases performed : work ⟨table, .begin name .readOnly⟩ with
  | mk outcome space =>
      rw [performed] at untouched
      obtain rfl := untouched
      cases outcome with
      | ok answer =>
          rw [transaction_ok isOpen held performed, ascending.modify_self held]
          rfl
      | error failure =>
          rw [transaction_error isOpen held performed, ascending.modify_self held]
          rfl

/-- Neither the writes of a transaction nor taking them back concerns another table. -/
theorem transaction_elsewhere
    (refuse : Error → Failure) (isOpen : store.isOpen) (wellFormed : store.tables.WellFormed)
    (held : store.tables.get? name = some table)
    (reaches : ∀ space : Workspace, space.Reaches (work space).2)
    {other : String} (apart : other ≠ name) :
    (store.transaction refuse mode name work).2.tables.get? other = store.tables.get? other := by
  rcases (reaches ⟨table, .begin name mode⟩).writes with ⟨changes, writes, _⟩
  cases performed : work ⟨table, .begin name mode⟩ with
  | mk outcome space =>
      rw [performed] at writes
      have worked :
          OrderedMap.get? (store.tables.modify name fun _ => space.table) other =
            store.tables.get? other := by
        rw [Tables.get?_replace held, if_neg apart]
      cases outcome with
      | ok answer =>
          rw [transaction_ok isOpen held performed]
          exact worked
      | error failure =>
          have journal : ∀ change ∈ space.transaction.journal, change.table ≠ other := by
            intro change member
            rw [writes.journal] at member
            have named : change.table = name :=
              (writes.names change member).trans (wellFormed.named held)
            rw [named]
            exact apart.symm
          rw [transaction_error isOpen held performed]
          exact (Journal.get?_undo_of_elsewhere journal _).trans worked

/-- Whatever work does in a transaction, it stays within the frame. -/
theorem framed_transaction
    (refuse : Error → Failure) (mode : AccessMode) (name : String)
    (wellFormed : store.tables.WellFormed)
    (reaches : ∀ space : Workspace, space.Reaches (work space).2) :
    store.Framed name mode (store.transaction refuse mode name work).2 := by
  cases isOpen : store.isOpen with
  | false =>
      rw [transaction_closed isOpen]
      exact .refl name mode store
  | true =>
      cases held : store.tables.get? name with
      | none =>
          rw [transaction_missing isOpen held]
          exact .refl name mode store
      | some table =>
          refine ⟨?_, transaction_elsewhere refuse isOpen wellFormed held reaches, ?_⟩
          · rintro rfl
            exact transaction_readOnly refuse isOpen wellFormed.ascending held reaches
          · refine ⟨_, transaction_outbox refuse mode name work, ?_⟩
            intro batch member
            exact (isBatchOf_of_committed wellFormed reaches batch member).2

end Store

/--
Every transaction of a store with its tables in order stays within its frame: with whatever
work that puts and deletes, with any list of operations, and with any unit.  A read-only one
leaves the whole store as it was, however many writes were attempted, caught or not.
-/
theorem transactions_framed
    {store : Store} (wellFormed : store.tables.WellFormed) :
    (∀ {Failure α : Type} (refuse : Error → Failure) (mode : AccessMode) (name : String)
      (work : Workspace → Except Failure α × Workspace),
      (∀ space : Workspace, space.Reaches (work space).2) →
        store.Framed name mode (store.transaction refuse mode name work).2) ∧
    (∀ (mode : AccessMode) (name : String) (steps : List OperationStep),
      store.Framed name mode (store.performAll mode name steps).2) ∧
    ∀ unit : WorkUnit, store.Framed unit.table unit.mode (store.run unit).2 := by
  refine ⟨?_, ?_, ?_⟩
  · intro Failure α refuse mode name work reaches
    exact Store.framed_transaction refuse mode name wellFormed reaches
  · intro mode name steps
    exact Store.framed_transaction _ mode name wellFormed
      (OperationStep.performAll_reaches steps [])
  · intro unit
    exact Store.framed_transaction _ unit.mode unit.table wellFormed unit.request.perform_reaches

/--
Every way to write is tried in a read-only transaction of one of two tables, and the store
stays as it was.  The same writes in a transaction that may write end with a failure, and
leave the other table alone.
-/
theorem transactions_framed_of_two_tables :
    let row : Value × Record := (.integer 1, .ofList [("id", .integer 1)])
    let first : Table := ⟨⟨"t", "id", true, []⟩, ⟨[row]⟩, 2⟩
    let second : Table := ⟨⟨"u", "id", true, []⟩, ⟨[row]⟩, 2⟩
    let tables := OrderedMap.empty.insert "t" first |>.insert "u" second
    let store : Store := ⟨"s", ⟨1, [first.schema, second.schema]⟩, tables, true, true, none, []⟩
    let steps : List OperationStep :=
      [⟨.put .empty none, true⟩, ⟨.putAll [.empty, .empty], true⟩, ⟨.delete (.integer 1), true⟩,
        ⟨.clear, true⟩, ⟨.collect .all [] .delete, true⟩, ⟨.run Descriptor.all.erasing, true⟩,
        ⟨.fail "no", false⟩]
    store.tables.WellFormed ∧
      (store.performAll .readOnly "t" steps).2 = store ∧
      (store.performAll .readWrite "t" steps).2.tables.get? "u" = some second := by
  intro row first second tables store steps
  have wellFormed : store.tables.WellFormed :=
    (Tables.empty_wellFormed.insert (show first.name = "t" from rfl)
      (List.pairwise_singleton _ _)).insert (show second.name = "u" from rfl)
        (List.pairwise_singleton _ _)
  have framed := (transactions_framed wellFormed).2.1
  refine ⟨wellFormed, (framed .readOnly "t" steps).reading rfl, ?_⟩
  have apart : "u" ≠ "t" := by decide
  rw [(framed .readWrite "t" steps).elsewhere apart]
  exact OrderedMap.get?_insert_self _ "u" second

end LiveTable
