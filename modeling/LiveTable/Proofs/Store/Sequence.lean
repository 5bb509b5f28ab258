import LiveTable.Proofs.Store.Announcing
import LiveTable.Proofs.Store.Replay

/-!
# Units one after another

What a unit comes to by itself: the store is opened if need be, the unit runs in one
transaction, and a failure names the table.  A sequence of units is that, one unit
after another.

Nothing in it depends on whether the store has been opened before, nor on what is in
the outbox.  So stores that do not differ otherwise agree on every sequence.
-/

set_option autoImplicit false

namespace LiveTable

namespace Store

/-- The store as it is once it has been opened, if it can be. -/
def opened (store : Store) : Store :=
  store.open?.toOption.getD store

/-- The store as it is when everything has been delivered. -/
def delivered (store : Store) : Store :=
  { store with outbox := [] }

/-- Two stores differ at most in whether they have been opened and in their outboxes. -/
def Agrees (first second : Store) : Prop :=
  first.opened.delivered = second.opened.delivered

/-- Runs a unit in one transaction, opening the store if need be; a failure names the table. -/
def attempt (store : Store) (unit : WorkUnit) : Except Error Outcome × Store :=
  match store.open? with
  | .error error => (.error (error.inTransaction unit.table), store)
  | .ok ready =>
    let (outcome, after) := ready.run unit
    (outcome.mapError fun failure => failure.error.inTransaction unit.table, after)

/-- Runs numbered units one after another; the answer is the outcome of each. -/
def sequence (store : Store) : List (Nat × WorkUnit) → List (Nat × Except Error Outcome) × Store
  | [] => ([], store)
  | (id, unit) :: rest =>
    let (outcome, after) := store.attempt unit
    let (outcomes, last) := after.sequence rest
    ((id, outcome) :: outcomes, last)

variable {store first second : Store} {unit : WorkUnit}

/-! ## Opening -/

theorem opened_of_ok {ready : Store} (opening : store.open? = .ok ready) :
    store.opened = ready := by
  rw [opened, opening]
  rfl

theorem opened_of_error {error : Error} (opening : store.open? = .error error) :
    store.opened = store := by
  rw [opened, opening]
  rfl

/-- A store that opens was open before, or is open with tables that have been created. -/
theorem of_open? {ready : Store} (opening : store.open? = .ok ready) :
    ready = store ∧ store.isOpen ∨
      ∃ tables, ready = { store with isOpen := true, isCreated := true, tables := tables } := by
  rcases store with ⟨name, schema, tables, isOpen, isCreated, blocked?, outbox⟩
  rw [open?] at opening
  split at opening
  · next already => exact Or.inl ⟨(Except.ok.inj opening).symm, already⟩
  · split at opening
    · contradiction
    · split at opening
      · next created =>
          obtain rfl : isCreated = true := created
          exact Or.inr ⟨tables, (Except.ok.inj opening).symm⟩
      · split at opening
        · contradiction
        · next made _ => exact Or.inr ⟨made, (Except.ok.inj opening).symm⟩

theorem isOpen_of_ok {ready : Store} (opening : store.open? = .ok ready) : ready.isOpen := by
  rcases of_open? opening with ⟨rfl, isOpen⟩ | ⟨tables, rfl⟩
  · exact isOpen
  · rfl

/-- Opening again changes nothing. -/
theorem open?_opened (store : Store) : store.opened.open? = store.open? := by
  cases opening : store.open? with
  | error error => rw [opened_of_error opening, opening]
  | ok ready => rw [opened_of_ok opening, open?, if_pos (isOpen_of_ok opening)]

@[simp]
theorem opened_opened (store : Store) : store.opened.opened = store.opened := by
  rw [opened, open?_opened, opened]
  cases store.open? <;> rfl

theorem open?_delivered (store : Store) : store.delivered.open? = store.open?.map delivered := by
  rcases store with ⟨name, schema, tables, isOpen, isCreated, blocked?, outbox⟩
  cases isOpen <;> cases blocked? <;> cases isCreated <;>
    cases declaring : declaredTables schema <;> simp [open?, delivered, declaring, Except.map]

theorem opened_delivered (store : Store) : store.delivered.opened = store.opened.delivered := by
  rw [opened, opened, open?_delivered]
  cases store.open? <;> rfl

/-! ## Agreement -/

theorem Agrees.refl (store : Store) : store.Agrees store :=
  rfl

theorem Agrees.trans {last : Store} (early : first.Agrees second) (late : second.Agrees last) :
    first.Agrees last :=
  Eq.trans early late

theorem Agrees.of_delivered (same : first.delivered = second.delivered) : first.Agrees second := by
  rw [Agrees, ← opened_delivered, ← opened_delivered, same]

theorem agrees_opened (store : Store) : store.opened.Agrees store := by
  rw [Agrees, opened_opened]

theorem agrees_of_open? {ready : Store} (opening : store.open? = .ok ready) :
    ready.Agrees store := by
  rw [← opened_of_ok opening]
  exact agrees_opened store

/-- A store that is not blocked may be closed: it opens again as it was. -/
theorem agrees_close (unblocked : store.blocked? = none)
    (created : store.isOpen → store.isCreated) : store.close.Agrees store := by
  rcases store with ⟨name, schema, tables, isOpen, isCreated, blocked?, outbox⟩
  obtain rfl : blocked? = none := unblocked
  cases isOpen with
  | false => exact .refl _
  | true =>
      obtain rfl : isCreated = true := created rfl
      have reopened :
          (close ⟨name, schema, tables, true, true, none, outbox⟩).open? =
            .ok ⟨name, schema, tables, true, true, none, outbox⟩ := rfl
      exact (agrees_of_open? reopened).symm

/-! ## Units -/

theorem attempt_of_error {error : Error} (opening : store.open? = .error error) :
    store.attempt unit = (.error (error.inTransaction unit.table), store) := by
  rw [attempt, opening]

theorem attempt_of_ok {ready : Store} (opening : store.open? = .ok ready) :
    store.attempt unit =
      ((ready.run unit).1.mapError fun failure => failure.error.inTransaction unit.table,
        (ready.run unit).2) := by
  rw [attempt, opening]

/-- A transaction changes the tables, and may put batches into the outbox. -/
theorem run_eq (store : Store) (unit : WorkUnit) :
    ∃ tables committed,
      (store.run unit).2 =
        { store with tables := tables, outbox := store.outbox ++ committed } := by
  have same : store = { store with outbox := store.outbox ++ [] } := by rw [List.append_nil]
  rw [run, transaction]
  split
  · exact ⟨store.tables, [], same⟩
  · split
    · exact ⟨store.tables, [], same⟩
    · dsimp only
      split
      · rw [publish, enqueue]
        split
        · exact ⟨_, [], by rw [List.append_nil]⟩
        · exact ⟨_, _, rfl⟩
      · exact ⟨_, [], by rw [List.append_nil]⟩

theorem attempt_outbox (store : Store) (unit : WorkUnit) :
    ∃ committed, (store.attempt unit).2.outbox = store.outbox ++ committed := by
  cases opening : store.open? with
  | error error =>
      rw [attempt_of_error opening]
      exact ⟨[], (List.append_nil _).symm⟩
  | ok ready =>
      rw [attempt_of_ok opening]
      rcases ready.run_eq unit with ⟨tables, committed, ran⟩
      rw [ran]
      rcases of_open? opening with ⟨rfl, _⟩ | ⟨opened, rfl⟩ <;> exact ⟨committed, rfl⟩

/-- A unit neither blocks the store nor lifts the block, and an open store stays created. -/
theorem attempt_door (store : Store) (unit : WorkUnit) :
    (store.attempt unit).2.blocked? = store.blocked? ∧
      ((store.isOpen → store.isCreated) →
        (store.attempt unit).2.isOpen → (store.attempt unit).2.isCreated) := by
  cases opening : store.open? with
  | error error =>
      rw [attempt_of_error opening]
      exact ⟨rfl, id⟩
  | ok ready =>
      rw [attempt_of_ok opening]
      rcases ready.run_eq unit with ⟨tables, committed, ran⟩
      rw [ran]
      rcases of_open? opening with ⟨rfl, _⟩ | ⟨opened, rfl⟩
      · exact ⟨rfl, id⟩
      · exact ⟨rfl, fun _ _ => rfl⟩

theorem attempt_opened (store : Store) (unit : WorkUnit) :
    store.opened.attempt unit = store.attempt unit := by
  cases opening : store.open? with
  | error error => rw [opened_of_error opening]
  | ok ready =>
      have again : store.opened.open? = .ok ready := by rw [open?_opened, opening]
      rw [attempt_of_ok again, attempt_of_ok opening]

/-- What is in the outbox makes no difference to a transaction. -/
theorem run_delivered (store : Store) (unit : WorkUnit) :
    (store.delivered.run unit).1 = (store.run unit).1 ∧
      (store.delivered.run unit).2.delivered = (store.run unit).2.delivered := by
  rcases store with ⟨name, schema, tables, isOpen, isCreated, blocked?, outbox⟩
  cases isOpen with
  | false => exact ⟨rfl, rfl⟩
  | true =>
      simp only [run, transaction, delivered, Bool.not_true, Bool.false_eq_true, if_false]
      cases tables.get? unit.table with
      | none => exact ⟨rfl, rfl⟩
      | some table =>
          dsimp only
          cases (unit.request.perform ⟨table, .begin unit.table unit.mode⟩).1 with
          | ok answer => exact ⟨rfl, rfl⟩
          | error failure => exact ⟨rfl, rfl⟩

theorem attempt_delivered (store : Store) (unit : WorkUnit) :
    (store.delivered.attempt unit).1 = (store.attempt unit).1 ∧
      (store.delivered.attempt unit).2.delivered = (store.attempt unit).2.delivered := by
  have opening := open?_delivered store
  cases opens : store.open? with
  | error error =>
      rw [opens] at opening
      rw [attempt_of_error opens, attempt_of_error opening]
      exact ⟨rfl, rfl⟩
  | ok ready =>
      rw [opens] at opening
      rw [attempt_of_ok opens, attempt_of_ok opening, (run_delivered ready unit).1]
      exact ⟨rfl, (run_delivered ready unit).2⟩

/-- Stores that agree run a unit to the same outcome, and agree afterwards. -/
theorem Agrees.attempt (agrees : first.Agrees second) (unit : WorkUnit) :
    (first.attempt unit).1 = (second.attempt unit).1 ∧
      (first.attempt unit).2.Agrees (second.attempt unit).2 := by
  have early := attempt_delivered first.opened unit
  have late := attempt_delivered second.opened unit
  rw [attempt_opened, agrees] at early
  rw [attempt_opened] at late
  exact ⟨early.1.symm.trans late.1, .of_delivered (early.2.symm.trans late.2)⟩

theorem sound_attempt (sound : store.Sound) (oneShot : unit.request.isOneShot) :
    (store.attempt unit).2.Sound := by
  cases opening : store.open? with
  | error error =>
      rw [attempt_of_error opening]
      exact sound
  | ok ready =>
      rw [attempt_of_ok opening]
      exact (ready.ran oneShot).sound (open?_keeps sound opening).1

/-- A unit that fails leaves the rows of every table as they were. -/
theorem attempt_error (sound : store.Sound) (oneShot : unit.request.isOneShot) {error : Error}
    (failed : (store.attempt unit).1 = .error error) :
    Tables.SameRows (store.attempt unit).2.tables store.opened.tables := by
  cases opening : store.open? with
  | error error =>
      rw [attempt_of_error opening, opened_of_error opening]
      exact .refl _
  | ok ready =>
      rw [attempt_of_ok opening] at failed ⊢
      rw [opened_of_ok opening]
      have before := (open?_keeps sound opening).1
      have ran := ready.ran oneShot
      dsimp only at failed ⊢
      generalize (ready.run unit).1 = outcome at ran failed
      generalize (ready.run unit).2 = after at ran ⊢
      cases ran with
      | refused failure => exact .refl _
      | failed held performed writes puts =>
          exact (writes.toTables before.wellFormed held).undo_sameRows before.wellFormed puts
      | done => contradiction

/-- A query that does not erase leaves the workspace as it was. -/
theorem perform_query_reads {descriptor : Descriptor} (reads : descriptor.projection ≠ .erase)
    (space : Workspace) : ((Request.query descriptor).perform space).2 = space := by
  have left : (Work.runOn (do pure (Outcome.result (← descriptor.run))) space).2 = space := by
    have unchanged := descriptor.run_reads reads space
    rw [Work.runOn_bind]
    cases ran : Work.runOn descriptor.run space with
    | mk outcome left =>
        rw [ran] at unchanged
        cases outcome with
        | ok answer => exact unchanged
        | error error => exact unchanged
  exact left

/-- A query that does not erase changes nothing but that the store is open afterwards. -/
theorem attempt_query (sound : store.Sound) {descriptor : Descriptor}
    (reads : descriptor.projection ≠ .erase) (table : String) (mode : AccessMode) :
    (store.attempt ⟨table, mode, .query descriptor⟩).2 = store.opened := by
  cases opening : store.open? with
  | error error => rw [attempt_of_error opening, opened_of_error opening]
  | ok ready =>
      rw [attempt_of_ok opening, opened_of_ok opening]
      have before := (open?_keeps sound opening).1
      have oneShot : (Request.query descriptor).isOneShot := rfl
      have ran : Ran ready ⟨table, mode, .query descriptor⟩ _ _ := ready.ran oneShot
      dsimp only
      generalize (ready.run ⟨table, mode, .query descriptor⟩).1 = outcome at ran
      generalize (ready.run ⟨table, mode, .query descriptor⟩).2 = after at ran ⊢
      have unread {found : Table} {space : Workspace} {changes : List Change}
          {outcome : Except OperationFailure Outcome}
          (performed :
            (Request.query descriptor).perform ⟨found, .begin table mode⟩ = (outcome, space))
          (writes : Workspace.Writes ⟨found, .begin table mode⟩ changes space) : changes = [] := by
        have left := perform_query_reads reads ⟨found, .begin table mode⟩
        rw [performed] at left
        obtain rfl : space = ⟨found, .begin table mode⟩ := left
        exact writes.journal.symm
      cases ran with
      | refused failure => rfl
      | failed held performed writes puts =>
          obtain rfl := unread performed writes
          have same := modify_of_quiet before held writes rfl
          dsimp only [Journal.undo, List.reverse_nil, List.foldl_nil] at same ⊢
          rw [same]
      | done held performed writes =>
          obtain rfl := unread performed writes
          have same := modify_of_quiet before held writes rfl
          dsimp only [publish, enqueue] at same ⊢
          rw [same]
          rfl

/-- A query that succeeds is answered on the tables that it finds. -/
theorem attempt_query_answers
    {descriptor : Descriptor} {table : String} {outcome : Outcome}
    (succeeded : (store.attempt ⟨table, descriptor.mode, .query descriptor⟩).1 = .ok outcome) :
    ∃ answer, outcome = .result answer ∧
      descriptor.compiled? store.opened.tables table = some answer := by
  cases opening : store.open? with
  | error error =>
      rw [attempt_of_error opening] at succeeded
      contradiction
  | ok ready =>
      rw [attempt_of_ok opening] at succeeded
      rw [opened_of_ok opening]
      have oneShot : (Request.query descriptor).isOneShot := rfl
      have ran : Ran ready ⟨table, descriptor.mode, .query descriptor⟩ _ _ := ready.ran oneShot
      dsimp only at succeeded
      generalize (ready.run ⟨table, descriptor.mode, .query descriptor⟩).1 = result
        at ran succeeded
      generalize (ready.run ⟨table, descriptor.mode, .query descriptor⟩).2 = after at ran
      cases ran with
      | refused failure => contradiction
      | failed => contradiction
      | @done found space changes result held performed writes =>
          rcases Except.ok.inj succeeded with rfl
          rcases Request.perform_query_ok performed with ⟨answer, same, answered⟩
          change Work.runOn descriptor.run ⟨found, .begin table descriptor.mode⟩ = _ at answered
          change ready.tables.get? table = some found at held
          refine ⟨answer, same, ?_⟩
          rw [Descriptor.compiled?, held]
          show (Work.runOn descriptor.run ⟨found, .begin table descriptor.mode⟩).1.toOption = _
          rw [answered]
          rfl

/-! ## Sequences -/

theorem sequence_append (store : Store) (early late : List (Nat × WorkUnit)) :
    store.sequence (early ++ late) =
      ((store.sequence early).1 ++ ((store.sequence early).2.sequence late).1,
        ((store.sequence early).2.sequence late).2) := by
  induction early generalizing store with
  | nil => rfl
  | cons unit rest ih =>
      simp only [List.cons_append, sequence, ih]

theorem sequence_ids (store : Store) (units : List (Nat × WorkUnit)) :
    (store.sequence units).1.map Prod.fst = units.map Prod.fst := by
  induction units generalizing store with
  | nil => rfl
  | cons unit rest ih => exact congrArg (unit.1 :: ·) (ih _)

theorem sound_sequence (sound : store.Sound) {units : List (Nat × WorkUnit)}
    (oneShot : ∀ unit ∈ units, unit.2.request.isOneShot) : (store.sequence units).2.Sound := by
  induction units generalizing store with
  | nil => exact sound
  | cons unit rest ih =>
      rw [List.forall_mem_cons] at oneShot
      exact ih (sound_attempt sound oneShot.1) oneShot.2

end Store

end LiveTable
