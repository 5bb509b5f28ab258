import LiveTable.Engine.Drain
import LiveTable.Proofs.Engine.Foundation
import LiveTable.Proofs.Engine.Operations

/-!
# Units at work

Running a unit changes the store and what times it, and nothing else of an engine.
When the unit has run its executor is free, so of the units in the queue none has lost
its place but the one that ran.
-/

set_option autoImplicit false

namespace LiveTable.Engine

variable {engine : Engine}

/-- What running a unit comes to. -/
structure RanUnit (engine : Engine) (unit : WorkUnit)
    (outcome : Except OperationFailure Outcome) (after : Engine) : Prop where
  same : SameWork { engine with store := after.store } after
  sound : after.store.Sound
  announces : engine.store.Announces after.store
  answers {name : String} {descriptor : Descriptor} {answer : Outcome}
    (asked : unit = ⟨name, descriptor.mode, .query descriptor⟩) (succeeded : outcome = .ok answer) :
    ∃ result, answer = .result result ∧
      ((∃ batch ∈ after.store.outbox, Touches batch name) ∨
        descriptor.compiled? after.store.tables name = some result)

theorem sameWork_elapse (engine : Engine) (clock : Nat) (answers : List Answer) :
    engine.SameWork (engine.elapse clock answers) := by
  rcases engine.elapse_eq clock answers with ⟨now, is⟩
  rw [is]
  exact .of_essence rfl rfl

theorem sameWork_startTiming (engine : Engine) : engine.SameWork engine.startTiming.2 := by
  rcases engine.startTiming_eq with ⟨monitor, is⟩
  rw [is]
  exact .of_essence rfl rfl

theorem sameWork_finishTiming (engine : Engine) (timing? : Option Nat) :
    engine.SameWork (engine.finishTiming timing?) := by
  rcases engine.finishTiming_eq timing? with ⟨monitor, is⟩
  rw [is]
  exact .of_essence rfl rfl

theorem SameWork.trans
    {first middle last : Engine} (early : first.SameWork middle) (late : middle.SameWork last) :
    first.SameWork last where
  essence := late.essence.trans early.essence
  nextId := Nat.le_trans early.nextId late.nextId

/-- Engines that do not differ otherwise do not differ with one store for both. -/
theorem SameWork.withStore
    {before after : Engine} (same : before.SameWork after) (store : Store) :
    SameWork { before with store := store } { after with store := store } where
  essence := congrArg (fun essence : Essence => { essence with store := store }) same.essence
  nextId := same.nextId

theorem ranUnit_transact
    (sound : engine.store.Sound) {unit : WorkUnit} (oneShot : unit.request.isOneShot)
    (clock : Nat) :
    engine.RanUnit unit (engine.transact unit clock).1 (engine.transact unit clock).2 := by
  rw [transact]
  cases opening : engine.store.open? with
  | error error =>
      exact {
        same := .of_essence rfl rfl
        sound := sound
        announces := .of_unchanged rfl rfl
        answers := fun _ succeeded => nomatch succeeded }
  | ok opened =>
      rcases Store.open?_keeps sound opening with ⟨soundOpened, announcesOpened⟩
      have ran := opened.ran oneShot
      let worked : Engine := { engine with store := (opened.run unit).2 }
      have elapsed := sameWork_elapse worked clock (Request.answersOf (opened.run unit).1)
      have store := elapsed.store
      show engine.RanUnit unit (opened.run unit).1
        (worked.elapse clock (Request.answersOf (opened.run unit).1))
      constructor
      · rw [store]
        exact elapsed
      · rw [store]
        exact ran.sound soundOpened
      · rw [store]
        exact announcesOpened.trans (ran.announces soundOpened)
      · intro name descriptor answer asked succeeded
        subst asked
        rw [store]
        rw [succeeded] at ran
        exact ran.answers soundOpened

theorem ranUnit_runUnit
    (sound : engine.store.Sound) {unit : WorkUnit} (oneShot : unit.request.isOneShot)
    (clock : Nat) :
    engine.RanUnit unit (engine.runUnit unit clock).1 (engine.runUnit unit clock).2 := by
  have timed := sameWork_startTiming engine
  have soundTimed : engine.startTiming.2.store.Sound := by
    rw [timed.store]
    exact sound
  have ran := ranUnit_transact soundTimed oneShot clock
  have finished :=
    sameWork_finishTiming (engine.startTiming.2.transact unit clock).2 engine.startTiming.1
  have store := finished.store
  have outcome :
      (engine.runUnit unit clock).1 =
        (engine.startTiming.2.transact unit clock).1.mapError fun failure =>
          ⟨failure.error.inTransaction unit.table, failure.answers⟩ := rfl
  have after :
      (engine.runUnit unit clock).2 =
        (engine.startTiming.2.transact unit clock).2.finishTiming engine.startTiming.1 := rfl
  rw [outcome, after]
  constructor
  · rw [store]
    refine SameWork.trans ?_ finished
    exact (timed.withStore _).trans ran.same
  · rw [store]
    exact ran.sound
  · rw [store, ← timed.store]
    exact ran.announces
  · intro name descriptor answer asked succeeded
    rw [store]
    cases result : (engine.startTiming.2.transact unit clock).1 with
    | error failure =>
        rw [result] at succeeded
        contradiction
    | ok found =>
        rw [result] at succeeded
        rcases Except.ok.inj succeeded with rfl
        exact ran.answers asked result

/-! ## After a unit -/

/-- The engine after a unit at the head of its queue: the executor is free. -/
theorem regular_afterUnit
    (regular : engine.Regular) {executor clock : Nat} {job : Job} {rest : List Task}
    (queue : engine.queue = .unit executor job clock :: rest)
    {worked : Engine} (same : SameWork { engine with queue := rest, store := worked.store } worked)
    (sound : worked.store.Sound) :
    (worked.release executor).Regular := by
  let freed : Engine :=
    { engine with
      queue := rest
      store := worked.store
      busy := engine.busy.filter (· != executor) }
  have sameFreed : freed.SameWork (worked.release executor) := by
    constructor
    · exact congrArg
        (fun essence : Essence => { essence with busy := essence.busy.filter (· != executor) })
        same.essence
    · exact same.nextId
  apply sameFreed.regular
  have member (task : Task) (waits : task ∈ rest) : task ∈ engine.queue := by
    rw [queue]
    exact List.mem_cons_of_mem _ waits
  constructor
  · refine { regular.orderly with store := sound, busy := ?_, queued := ?_, tasks := ?_ }
    · intro id busy
      exact regular.orderly.busy (List.mem_filter.mp busy).1
    · intro id binding held busy
      rcases List.mem_filter.mp busy with ⟨before, different⟩
      rcases regular.orderly.queued held before with ⟨number, waits⟩
      rw [queue] at waits
      rcases List.mem_cons.mp waits with head | later
      · have sameId : id = executor := by
          injection head
        simp [sameId] at different
      · exact ⟨number, later⟩
    · exact fun task waits => regular.orderly.tasks task (member task waits)
  · intro id binding held isOpen
    exact ⟨(regular.watchful held isOpen).attached, (regular.watchful held isOpen).listed⟩

end LiveTable.Engine
