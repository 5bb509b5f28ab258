import LiveTable.Proofs.Engine.Progress
import LiveTable.Proofs.Engine.Standing
import LiveTable.Proofs.Engine.Storage

/-!
# How requests are settled

A request whose unit is the next one to be run is settled two steps later: the unit runs,
and the outcome is given to the request.  Nothing comes in between, so the outcome and
the store are those that the unit comes to by itself.

What a unit comes to by itself can be read off its work where the store opens and has
the table: work that leaves its workspace as it was leaves the store as it was opened,
and all else that succeeds is committed.
-/

set_option autoImplicit false

namespace LiveTable

/-! ## Units by their work -/

namespace Store

variable {α : Type} {work : Work α} {wrap : α → Outcome}
  {store ready : Store} {unit : WorkUnit} {table : Table}

theorem attempt_missing
    (opening : store.open? = .ok ready) (missing : ready.tables.get? unit.table = none) :
    store.attempt unit =
      (.error ((Error.tableNotFound unit.table).inTransaction unit.table), ready) := by
  rw [attempt_of_ok opening, run, transaction_missing (isOpen_of_ok opening) missing]
  rfl

/-- Work that succeeds is committed. -/
theorem attempt_committed
    (opening : store.open? = .ok ready) (held : ready.tables.get? unit.table = some table)
    (performs : unit.request.perform = Request.alone do pure (wrap (← work)))
    {answer : α} {space : Workspace}
    (done : Work.runOn work ⟨table, .begin unit.table unit.mode⟩ = (.ok answer, space)) :
    store.attempt unit =
      (.ok (wrap answer),
        { ready with tables := ready.tables.modify unit.table fun _ => space.table }.publish
          space.transaction.journal) := by
  have wrapped : Work.runOn (do pure (wrap (← work))) ⟨table, .begin unit.table unit.mode⟩ =
      (.ok (wrap answer), space) :=
    Work.runOn_bind_ok done
  have performed : unit.request.perform ⟨table, .begin unit.table unit.mode⟩ =
      (.ok (wrap answer), space) := by
    rw [performs]
    show ((Work.runOn (do pure (wrap (← work))) _).1.mapError _,
      (Work.runOn (do pure (wrap (← work))) _).2) = _
    rw [wrapped]
    rfl
  rw [attempt_of_ok opening, run, transaction_ok (isOpen_of_ok opening) held performed]
  rfl

/-- Work that leaves its workspace as it was leaves the store as it was opened. -/
theorem attempt_reading
    (opening : store.open? = .ok ready) (held : ready.tables.get? unit.table = some table)
    (ascending : ready.tables.Ascending)
    (performs : unit.request.perform = Request.alone do pure (wrap (← work)))
    {result : Except Error α}
    (read : Work.runOn work ⟨table, .begin unit.table unit.mode⟩ =
      (result, ⟨table, .begin unit.table unit.mode⟩)) :
    store.attempt unit =
      ((result.map wrap).mapError fun error => error.inTransaction unit.table, ready) := by
  have unchanged : (ready.tables.modify unit.table fun _ => table) = ready.tables :=
    ascending.modify_self held
  cases result with
  | ok answer =>
      rw [attempt_committed opening held performs read, unchanged]
      rfl
  | error error =>
      have wrapped : Work.runOn (do pure (wrap (← work))) ⟨table, .begin unit.table unit.mode⟩ =
          (.error error, ⟨table, .begin unit.table unit.mode⟩) :=
        Work.runOn_bind_error read
      have performed : unit.request.perform ⟨table, .begin unit.table unit.mode⟩ =
          (.error ⟨error, []⟩, ⟨table, .begin unit.table unit.mode⟩) := by
        rw [performs]
        show ((Work.runOn (do pure (wrap (← work))) _).1.mapError _,
          (Work.runOn (do pure (wrap (← work))) _).2) = _
        rw [wrapped]
        rfl
      rw [attempt_of_ok opening, run, transaction_error (isOpen_of_ok opening) held performed,
        unchanged]
      rfl

end Store

/-! ## Settling -/

namespace Machine

/-- The next task of the machine, which drains its queue, is the unit of a request. -/
def RunsNext (machine : Machine) (id : Nat) (table : String) (request : Request) : Prop :=
  ∃ ran rest clock waiting, machine.agenda = .drain ran none :: rest ∧
    machine.engine.queue =
      .unit id (.request ⟨table, request.mode, request⟩) clock :: waiting

/-- In two steps the outcome of a request is there, and the store is what the unit left. -/
def Settles (machine : Machine) (id : Nat) (outcome : Except Error Outcome) (store : Store) :
    Prop :=
  ∃ ran settled, machine.step? = some ran ∧ ran.step? = some settled ∧
    settled.engine.outcomes.get? id = some outcome ∧ settled.engine.store = store

variable {machine : Machine} {id : Nat} {table : String} {request : Request}

/-- A request is settled in one way only. -/
theorem Settles.unique {first second : Except Error Outcome} {store other : Store}
    (settles : machine.Settles id first store) (again : machine.Settles id second other) :
    first = second ∧ store = other := by
  rcases settles with ⟨ran, settled, stepped, given, outcome, rfl⟩
  rcases again with ⟨_, _, steppedAgain, givenAgain, outcomeAgain, rfl⟩
  rw [stepped] at steppedAgain
  obtain rfl := Option.some.inj steppedAgain
  rw [given] at givenAgain
  obtain rfl := Option.some.inj givenAgain
  rw [outcome] at outcomeAgain
  exact ⟨Option.some.inj outcomeAgain, rfl⟩

/-- A request whose unit is next is settled with what the unit comes to by itself. -/
theorem RunsNext.settles (runs : machine.RunsNext id table request) :
    machine.Settles id
      (machine.engine.store.attempt ⟨table, request.mode, request⟩).1
      (machine.engine.store.attempt ⟨table, request.mode, request⟩).2 := by
  rcases runs with ⟨ran, rest, clock, waiting, agenda, queue⟩
  let unit : WorkUnit := ⟨table, request.mode, request⟩
  let working : Machine := { machine with agenda := rest }
  let begun : Machine := working.become { machine.engine with queue := waiting }
  let after := (begun.engine.runUnit unit clock).2.release id
  have queued : working.engine.queue = .unit id (.request unit) clock :: waiting := queue
  have stepped : machine.step? = some (begun.runUnit id (.request unit) clock (ran + 1)) := by
    simp only [step?, agenda, act]
    exact congrArg some (drain_unit queued ran)
  have outcome : (begun.engine.runUnit unit clock).1.mapError OperationFailure.error =
      (machine.engine.store.attempt unit).1 :=
    (begun.engine.runUnit_eq unit clock).1
  rcases (begun.engine.runUnit_eq unit clock).2 with ⟨monitor, now, worked⟩
  have store : after.store = (machine.engine.store.attempt unit).2 :=
    (Engine.store_release _ id).trans (congrArg Engine.store worked)
  have told : ∃ later, begun.runUnit id (.request unit) clock (ran + 1) =
      (begun.become after).next
        (.settle id (machine.engine.store.attempt unit).1 :: later) := by
    have prepared : begun.engine.unit? id (.request unit) = some unit := rfl
    cases result : (begun.engine.runUnit unit clock).1 with
    | ok answer =>
        rw [result] at outcome
        rw [runUnit_of_ok begun prepared result, ← outcome]
        exact ⟨_, rfl⟩
    | error failure =>
        rw [result] at outcome
        rw [runUnit_of_error begun prepared result, ← outcome]
        exact ⟨_, rfl⟩
  rcases told with ⟨later, told⟩
  rw [told] at stepped
  exact ⟨_, _, stepped, rfl, OrderedMap.get?_insert_self _ _ _, store⟩

end Machine

/-- Between any two steps the rows of the store stand under keys that agree with their records. -/
theorem Engine.AtWork.keyed {name : String} {schema : StoreSchema} {config : Config}
    {machine : Machine} (atWork : (create name schema config).AtWork machine) :
    machine.engine.store.Keyed := by
  induction atWork with
  | start reachable command => exact reachable.keyed
  | step _ stepped ih => exact Machine.keyed_step ih stepped

/-- Nothing is queued, nobody is busy, and no outcome is there for the next request. -/
def Engine.isAtRest (engine : Engine) : Bool :=
  engine.queue.isEmpty && engine.busy.isEmpty && (engine.outcomes.get? engine.nextId).isNone

/-- A request that is awaited of an engine at rest comes to run next. -/
theorem Engine.Reachable.runsNext {first engine : Engine} {ready : Store}
    (reachable : first.Reachable engine) (atRest : engine.isAtRest)
    (stored : engine.store = ready) (isOpen : ready.isOpen) (table : String) (request : Request) :
    ∃ machine, first.AtWork machine ∧ machine.engine.store = ready ∧
      machine.engine.store.open? = .ok ready ∧ machine.RunsNext engine.nextId table request := by
  obtain ⟨⟨idle, free⟩, unsettled⟩ :
      (engine.queue = [] ∧ engine.busy = []) ∧ engine.outcomes.get? engine.nextId = none := by
    simpa [isAtRest] using atRest
  let submitted : Engine := (engine.submit table request).2
  let working : Machine := ⟨submitted, [], .nothing, []⟩
  have isBusy : engine.allocate.2.isBusy engine.nextId = false := by
    rw [isBusy, show engine.allocate.2.busy = [] from free]
    rfl
  have scheduled : submitted =
      { engine with
        nextId := engine.nextId + 1
        queue := engine.queue ++
          [.unit engine.nextId (.request ⟨table, request.mode, request⟩) engine.clock.number]
        busy := engine.nextId :: engine.busy } := by
    show (engine.allocate.2.schedule engine.nextId _).2 = _
    rw [schedule, isBusy]
    rfl
  have outcomes : submitted.outcomes = engine.outcomes := by rw [scheduled]
  have queue : submitted.queue =
      [.unit engine.nextId (.request ⟨table, request.mode, request⟩) engine.clock.number] := by
    rw [scheduled, idle]
    rfl
  have running : working.resolve engine.nextId =
      working.next (Machine.running ++ [.recheck engine.nextId]) := by
    rw [Machine.resolve, Machine.takeOr, takeOutcome, show working.engine = submitted from rfl,
      outcomes, unsettled]
  have asked : first.AtWork (working.next [.resolve engine.nextId]) :=
    .step (.start reachable (.request (.submit none table request))) rfl
  have store : submitted.store = ready := (engine.store_submit table request).trans stored
  have opening : submitted.store.open? = .ok ready := by rw [store, Store.open?, if_pos isOpen]
  refine ⟨working.next (Machine.running ++ [.recheck engine.nextId]), ?_, store, opening,
    0, _, _, [], rfl, queue⟩
  exact .step asked (congrArg some running)

end LiveTable
