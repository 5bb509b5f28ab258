import LiveTable.Proofs.Engine.Runs

/-!
# What engines rest on

An engine rests on its store, its monitor and the mark that says whether batches are being
delivered.  Few things touch these: commands on the store, the command that replaces the clock,
what fills and empties the outbox, what begins a delivery, and what runs units.  Whatever else an
engine does leaves all three as they are.
-/

set_option autoImplicit false

namespace LiveTable

/-- The store of an engine, its monitor, and the mark of a delivery. -/
def Engine.foundation (engine : Engine) : Store × Monitor × Bool :=
  (engine.store, engine.monitor, engine.isFlushing)

section Same

variable {before after : Engine} (same : after.foundation = before.foundation)
include same

theorem Engine.store_of_foundation : after.store = before.store :=
  congrArg Prod.fst same

theorem Engine.monitor_of_foundation : after.monitor = before.monitor :=
  congrArg (·.2.1) same

theorem Engine.isFlushing_of_foundation : after.isFlushing = before.isFlushing :=
  congrArg (·.2.2) same

end Same

/-! ## Clocks and timing -/

namespace Engine

theorem elapse_eq (engine : Engine) (clock : Nat) (answers : List Answer) :
    ∃ now, engine.elapse clock answers = { engine with clock := now } := by
  rw [elapse]
  split
  · exact ⟨_, rfl⟩
  · exact ⟨engine.clock, rfl⟩

theorem startTiming_eq (engine : Engine) :
    ∃ monitor, engine.startTiming.2 = { engine with monitor := monitor } := by
  rw [startTiming]
  split
  · exact ⟨_, rfl⟩
  · exact ⟨engine.monitor, rfl⟩

theorem finishTiming_eq (engine : Engine) (timing? : Option Nat) :
    ∃ monitor, engine.finishTiming timing? = { engine with monitor := monitor } := by
  cases timing? with
  | none => exact ⟨engine.monitor, rfl⟩
  | some id =>
      rw [finishTiming]
      split
      · exact ⟨_, rfl⟩
      · exact ⟨engine.monitor, rfl⟩

end Engine

/-! ## Operations leave the foundation alone -/

namespace Engine

variable (engine : Engine)

@[simp]
theorem foundation_allocate : engine.allocate.2.foundation = engine.foundation :=
  rfl

@[simp]
theorem foundation_register (reaction : Reaction Command) :
    (engine.register reaction).2.foundation = engine.foundation :=
  rfl

@[simp]
theorem foundation_register? (reaction? : Option (Reaction Command)) :
    (engine.register? reaction?).2.foundation = engine.foundation := by
  cases reaction? <;> rfl

@[simp]
theorem foundation_rename (name : String) (change : Handles → Handles) :
    (engine.rename name change).foundation = engine.foundation :=
  rfl

@[simp]
theorem foundation_hold (held : Held) : (engine.hold held).foundation = engine.foundation :=
  rfl

@[simp]
theorem foundation_modifyBinding (id : Nat) (change : Binding → Binding) :
    (engine.modifyBinding id change).foundation = engine.foundation :=
  rfl

@[simp]
theorem foundation_modifyCache (id : Nat) (change : ItemCache → ItemCache) :
    (engine.modifyCache id change).foundation = engine.foundation :=
  rfl

@[simp]
theorem foundation_takeOutcome (id : Nat) :
    (engine.takeOutcome id).2.foundation = engine.foundation :=
  rfl

@[simp]
theorem foundation_leave (id : Nat) : (engine.leave id).foundation = engine.foundation :=
  rfl

@[simp]
theorem foundation_attach : engine.attach.foundation = engine.foundation := by
  rw [attach]
  split <;> rfl

@[simp]
theorem foundation_watch (id : Nat) (table : String) (watcher : Watcher) :
    (engine.watch id table watcher).foundation = engine.foundation :=
  engine.foundation_attach

@[simp]
theorem foundation_detach (attachment? : Option Nat) :
    (engine.detach attachment?).foundation = engine.foundation := by
  cases attachment? <;> rfl

@[simp]
theorem foundation_schedule (executor : Nat) (job : Job) :
    (engine.schedule executor job).2.foundation = engine.foundation := by
  rw [schedule]
  split <;> rfl

@[simp]
theorem foundation_requestBinding (id : Nat) :
    (engine.requestBinding id).2.foundation = engine.foundation := by
  rw [requestBinding]
  split
  · split <;> simp
  · rfl

@[simp]
theorem foundation_requestCache (id : Nat) :
    (engine.requestCache id).2.foundation = engine.foundation := by
  rw [requestCache]
  split
  · split <;> simp
  · rfl

@[simp]
theorem foundation_closeBinding (id : Nat) :
    (engine.closeBinding id).foundation = engine.foundation := by
  rw [closeBinding]
  split
  · rfl
  · split <;> simp

@[simp]
theorem foundation_closeCache (id : Nat) :
    (engine.closeCache id).foundation = engine.foundation := by
  rw [closeCache]
  split
  · rfl
  · split <;> simp

@[simp]
theorem foundation_closeObject (id : Nat) :
    (engine.closeObject id).foundation = engine.foundation := by
  simp [closeObject]

@[simp]
theorem foundation_discard (id : Nat) : (engine.discard id).foundation = engine.foundation := by
  rw [discard]
  split
  · rfl
  · exact engine.foundation_closeObject id

@[simp]
theorem foundation_renewRegistry : engine.renewRegistry.foundation = engine.foundation := by
  simp only [renewRegistry]
  split
  · rfl
  · exact engine.foundation_detach engine.attachment?

@[simp]
theorem foundation_settleGivenUp (held : Held) :
    (engine.settleGivenUp held).foundation = engine.foundation := by
  cases held with
  | registry generation =>
      rw [settleGivenUp]
      split
      · exact engine.foundation_detach _
      · rfl
  | object id =>
      rw [settleGivenUp]
      split
      · exact engine.foundation_closeObject id
      · rfl

@[simp]
theorem foundation_letGo (held : Held) : (engine.letGo held).foundation = engine.foundation := by
  simp only [letGo]
  split
  · rfl
  · exact foundation_settleGivenUp _ held

@[simp]
theorem foundation_createBinding (table : String) (descriptor : Descriptor) :
    (engine.createBinding table descriptor).2.foundation = engine.foundation := by
  simp only [createBinding, foundation_requestBinding, foundation_watch]
  rfl

@[simp]
theorem foundation_setDescriptor (id : Nat) (binding : Binding) (descriptor : Descriptor) :
    (engine.setDescriptor id binding descriptor).2.foundation = engine.foundation := by
  rw [setDescriptor]
  split <;> simp

@[simp]
theorem foundation_setTable (id : Nat) (binding : Binding) (table : String) :
    (engine.setTable id binding table).2.foundation = engine.foundation := by
  rw [setTable]
  split
  · rfl
  · dsimp only
    split <;> simp

@[simp]
theorem foundation_fetch (id : Nat) (binding : Binding) (table? : Option String)
    (descriptor? : Option Descriptor) (callback : Callback) :
    (engine.fetch id binding table? descriptor? callback).2.foundation = engine.foundation := by
  simp only [fetch]
  split
  · rfl
  · split <;> simp

@[simp]
theorem foundation_createCache (table idField : String) :
    (engine.createCache table idField).2.foundation = engine.foundation := by
  simp only [createCache, foundation_watch]
  rfl

@[simp]
theorem foundation_trackItem (id : Nat) (item : Value) (callback? : Option Callback) :
    (engine.trackItem id item callback?).foundation = engine.foundation := by
  simp [trackItem]

@[simp]
theorem foundation_executorOf (name? : Option String) :
    (engine.executorOf name?).2.foundation = engine.foundation := by
  rw [executorOf]
  split <;> rfl

@[simp]
theorem foundation_submit (table : String) (request : Request) :
    (engine.submit table request).2.foundation = engine.foundation := by
  simp only [submit, foundation_schedule]
  rfl

@[simp]
theorem foundation_drop (name : String) : (engine.drop name).foundation = engine.foundation := by
  simp only [drop]
  cases (engine.handles name).watch? <;> cases (engine.handles name).binding? <;>
    cases (engine.handles name).cache? <;>
      simp only [Option.elim, foundation_discard, foundation_leave] <;> rfl

@[simp]
theorem foundation_elapse (clock : Nat) (answers : List Answer) :
    (engine.elapse clock answers).foundation = engine.foundation := by
  rcases engine.elapse_eq clock answers with ⟨now, is⟩
  rw [is]
  rfl

@[simp]
theorem foundation_foldl_enqueue (routines : List Routine) :
    (routines.foldl (fun engine routine => engine.enqueue (.routine routine)) engine).foundation =
      engine.foundation := by
  induction routines generalizing engine with
  | nil => rfl
  | cons routine rest ih => exact ih _

end Engine

/-! ## Activities -/

/-- Whether a command acts on the foundation itself. -/
def Command.reachesFoundation : Command → Bool
  | .store _ | .feed (.publish _) | .clock (.start _) => true
  | _ => false

/-- Whether an activity acts on it itself: what begins or ends a delivery, and what runs units. -/
def Activity.reachesFoundation : Activity → Bool
  | .perform command => command.reachesFoundation
  | .flush | .deliver _ | .drain _ _ => true
  | _ => false

namespace Machine

variable {machine after : Machine}

theorem foundation_performRegistry (command : RegistryCommand Command) :
    (machine.performRegistry command).engine.foundation = machine.engine.foundation := by
  cases command with
  | clear => rfl
  | _ => simp [performRegistry, conclude, holding, become, next]

theorem foundation_performRequest (command : RequestCommand) :
    (machine.performRequest command).engine.foundation = machine.engine.foundation := by
  cases command with
  | submit name? table request =>
      cases name? <;> simp [performRequest, conclude, become, next]
  | take name =>
      rw [performRequest]
      split <;> rfl
  | resolve name =>
      rw [performRequest]
      split <;> rfl

theorem foundation_performExecutor (command : ExecutorCommand Command) :
    (machine.performExecutor command).engine.foundation = machine.engine.foundation := by
  cases command <;> simp [performExecutor, conclude]

theorem foundation_performWatch (command : WatchCommand Command) :
    (machine.performWatch command).engine.foundation = machine.engine.foundation := by
  cases command with
  | create name table reaction =>
      cases former : (machine.engine.handles name).watch? <;>
        simp [performWatch, conclude, former]
  | stop name =>
      rw [performWatch]
      split <;> rfl

theorem foundation_withBinding
    {name : String} {go : Nat → Binding → Machine}
    (goes : ∀ id binding, (go id binding).engine.foundation = machine.engine.foundation) :
    (machine.withBinding name go).engine.foundation = machine.engine.foundation := by
  rw [withBinding]
  split
  · exact goes _ _
  · rfl

theorem foundation_performIssued (command : BindingCommand Command) :
    (machine.performIssued command).engine.foundation = machine.engine.foundation := by
  cases command with
  | create name table descriptor =>
      cases former : (machine.engine.handles name).binding? <;>
        simp [performIssued, conclude, former]
  | _ =>
      apply foundation_withBinding
      intro id binding
      simp [conclude, holding, become, next]

theorem foundation_withCache
    {name : String} {go : Nat → ItemCache → Machine}
    (goes : ∀ id cache, (go id cache).engine.foundation = machine.engine.foundation) :
    (machine.withCache name go).engine.foundation = machine.engine.foundation := by
  rw [withCache]
  split
  · exact goes _ _
  · rfl

theorem foundation_performCache (command : CacheCommand Command) :
    (machine.performCache command).engine.foundation = machine.engine.foundation := by
  cases command with
  | create name table idField? =>
      cases former : (machine.engine.handles name).cache? <;>
        simp [performCache, conclude, former]
  | request name item reaction? =>
      apply foundation_withCache
      intro id cache
      dsimp only
      split <;> simp [conclude, holding, become, next]
  | _ =>
      apply foundation_withCache
      intro id cache
      simp [conclude]

/-- A command that does not act on the foundation leaves it alone. -/
theorem foundation_perform {command : Command} (other : command.reachesFoundation = false) :
    (machine.perform command).engine.foundation = machine.engine.foundation := by
  cases command with
  | feed command => cases command <;> first | rfl | contradiction
  | registry command => exact foundation_performRegistry command
  | queue command => cases command <;> rfl
  | store command => contradiction
  | clock command => cases command <;> first | rfl | contradiction
  | request command => exact foundation_performRequest command
  | executor command => exact foundation_performExecutor command
  | watch command => exact foundation_performWatch command
  | binding command =>
      let allocated := machine.become machine.engine.allocate.2
      show (allocated.performIssued (command.issued machine.engine.nextId)).engine.foundation = _
      exact foundation_performIssued _
  | cache command => exact foundation_performCache command
  | drop name => simp [perform, conclude]
  | _ => rfl

theorem foundation_runRoutine (routine : Routine) (ran : Nat) :
    (machine.runRoutine routine ran).engine.foundation = machine.engine.foundation := by
  simp [runRoutine, note, become, next]

theorem foundation_takeOr
    {id : Nat} {otherwise : Machine → Machine}
    (goes : (otherwise machine).engine.foundation = machine.engine.foundation) :
    (machine.takeOr id otherwise).engine.foundation = machine.engine.foundation := by
  rw [takeOr]
  split
  · next taken =>
      rw [← machine.engine.foundation_takeOutcome id, congrArg Prod.snd taken]
      rfl
  · exact goes

/-- An activity that does not act on the foundation leaves it alone. -/
theorem foundation_act {activity : Activity} (other : activity.reachesFoundation = false) :
    (machine.act activity).engine.foundation = machine.engine.foundation := by
  cases activity with
  | perform command => exact foundation_perform other
  | deliver delivered => contradiction
  | drain ran failure? => contradiction
  | call callback notice =>
      simp only [act, call]
      split <;> rfl
  | flush => contradiction
  | tell listener batch =>
      cases listener with
      | registry generation =>
          simp only [act, tell]
          split <;> rfl
      | callback target => rfl
  | visit generation table =>
      simp only [act, visit]
      split <;> rfl
  | letGo held => simp [act, become]
  | alert watcher table => cases watcher <;> simp [act, alert, become, next]
  | afterDrain =>
      simp only [act, afterDrain]
      split <;> rfl
  | resolve id =>
      apply foundation_takeOr
      rfl
  | recheck id =>
      apply foundation_takeOr
      split <;> rfl
  | refresh id result =>
      simp only [act, refresh]
      split
      · rfl
      · split <;> rfl
  | serve id =>
      simp only [act, serve]
      split <;> rfl
  | refill id records =>
      simp only [act, refill]
      split <;> rfl
  | serveItem id item callback =>
      simp only [act, serveItem]
      split <;> rfl
  | spread id =>
      simp only [act, spread]
      split <;> rfl
  | _ => rfl

end Machine

end LiveTable
