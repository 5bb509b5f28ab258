import LiveTable.Proofs.Store.Keyed
import LiveTable.Proofs.Store.Sequence

/-!
# What transactions commit

A transaction commits the changes that its work has made, unless it is refused or its work
fails.  A commit with changes puts them into the outbox as one batch; a failure, and a
commit of work that only read, puts nothing there.

Work does nothing to its table but put and delete, so all changes of a batch are changes of
one table.
-/

set_option autoImplicit false

namespace LiveTable

/-- A batch of changes of one table, and of at least one. -/
def IsBatchOf (name : String) (batch : List Change) : Prop :=
  batch ≠ [] ∧ ∀ change ∈ batch, change.table = name

namespace Store

variable {Failure α : Type} {store : Store}

/-- The changes that work on a table commits; none if it is refused or fails. -/
def committed? (store : Store) (mode : AccessMode) (name : String)
    (work : Workspace → Except Failure α × Workspace) : Option (List Change) :=
  if !store.isOpen then none
  else
    (store.tables.get? name).bind fun table =>
      let (outcome, space) := work ⟨table, .begin name mode⟩
      if outcome.isOk then some space.transaction.journal else none

/-- The batch that comes of what was committed, if there is one. -/
def batchOf : Option (List Change) → List (List Change)
  | some changes => if changes.isEmpty then [] else [changes]
  | none => []

/-- A transaction puts the batch that it commits into the outbox, and nothing else. -/
theorem transaction_outbox
    (refuse : Error → Failure) (mode : AccessMode) (name : String)
    (work : Workspace → Except Failure α × Workspace) :
    (store.transaction refuse mode name work).2.outbox =
      store.outbox ++ batchOf (store.committed? mode name work) := by
  have nothing : store.outbox = store.outbox ++ batchOf none := (List.append_nil _).symm
  rw [transaction, committed?]
  split
  · exact nothing
  · cases store.tables.get? name with
    | none => exact nothing
    | some table =>
        dsimp only [Option.bind_some]
        cases (work ⟨table, .begin name mode⟩).1 with
        | error failure => exact nothing
        | ok answer =>
            let journal := (work ⟨table, .begin name mode⟩).2.transaction.journal
            show enqueue store.outbox journal = store.outbox ++ batchOf (some journal)
            rw [enqueue, batchOf]
            split
            · exact nothing
            · rfl

/-- The unit that opens the store first puts what it commits into the outbox. -/
theorem attempt_outbox_eq (store : Store) (unit : WorkUnit) :
    (store.attempt unit).2.outbox =
      store.outbox ++
        batchOf (store.opened.committed? unit.mode unit.table unit.request.perform) := by
  cases opening : store.open? with
  | error error =>
      have closed : store.isOpen = false := by
        cases isOpen : store.isOpen with
        | false => rfl
        | true => simp [open?, isOpen] at opening
      rw [attempt_of_error opening, opened_of_error opening, committed?, closed]
      exact (List.append_nil _).symm
  | ok ready =>
      have outbox : ready.outbox = store.outbox := by
        rcases of_open? opening with ⟨rfl, _⟩ | ⟨tables, rfl⟩ <;> rfl
      rw [attempt_of_ok opening, opened_of_ok opening, ← outbox]
      exact transaction_outbox _ unit.mode unit.table unit.request.perform

/-- What is committed of a table are changes of that table. -/
theorem named_of_committed
    (wellFormed : store.tables.WellFormed) {mode : AccessMode} {name : String}
    {work : Workspace → Except Failure α × Workspace}
    (reaches : ∀ space : Workspace, space.Reaches (work space).2) {changes : List Change}
    (committed : store.committed? mode name work = some changes) :
    ∀ change ∈ changes, change.table = name := by
  rw [committed?] at committed
  split at committed
  · contradiction
  · rcases Option.bind_eq_some_iff.mp committed with ⟨table, held, journal⟩
    rcases (reaches ⟨table, .begin name mode⟩).writes with ⟨made, writes, _⟩
    dsimp only at journal
    split at journal
    · rcases Option.some.inj journal with rfl
      intro change member
      rw [writes.journal] at member
      rw [writes.names change member]
      exact wellFormed.named held
    · contradiction

theorem isBatchOf_of_committed
    (wellFormed : store.tables.WellFormed) {mode : AccessMode} {name : String}
    {work : Workspace → Except Failure α × Workspace}
    (reaches : ∀ space : Workspace, space.Reaches (work space).2) :
    ∀ batch ∈ batchOf (store.committed? mode name work), IsBatchOf name batch := by
  intro batch member
  cases committed : store.committed? mode name work with
  | none =>
      rw [committed] at member
      contradiction
  | some changes =>
      rw [committed, batchOf] at member
      split at member
      · contradiction
      · next some =>
          rw [List.mem_singleton.mp member]
          exact ⟨by simpa using some, named_of_committed wellFormed reaches committed⟩

end Store

end LiveTable
