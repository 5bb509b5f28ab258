import LiveTable.Proofs.Engine.Progress
import Mathlib.Logic.Relation

/-!
# What becomes of the queue and of the registries

The standing of an engine is its queue, who is busy with it, and its registries: the present
one and the former ones that are still held.  Whatever an engine does, its standing shifts
in a few ways: an executor that is free takes a unit, a routine is queued, the first task
leaves the queue, a number watches a table or leaves it, and a registry begins anew, is put
by or is gone.

What every such shift keeps holds between all steps of all commands that an engine carries
out.
-/

set_option autoImplicit false

namespace LiveTable

/-- The queue with who is busy with it, and the registries. -/
structure Standing where
  queue : List Task
  busy : List Nat
  registry : Registry Watcher
  former : OrderedMap Nat FormerRegistry

/-- One thing that can happen to the standing of an engine. -/
inductive Standing.Shift : Standing → Standing → Prop where
  | schedule {standing : Standing} {executor : Nat} (free : executor ∉ standing.busy)
      (job : Job) (clock : Nat) :
      Shift standing { standing with
        queue := standing.queue ++ [.unit executor job clock]
        busy := executor :: standing.busy }
  | enqueue (standing : Standing) (routine : Routine) :
      Shift standing { standing with queue := standing.queue ++ [.routine routine] }
  /-- The unit at the head of the queue has left it, and its executor is free. -/
  | finish {standing : Standing} {executor clock : Nat} {job : Job} {rest : List Task}
      (queue : standing.queue = .unit executor job clock :: rest) :
      Shift standing { standing with
        queue := rest
        busy := standing.busy.filter (· != executor) }
  | pass {standing : Standing} {routine : Routine} {rest : List Task}
      (queue : standing.queue = .routine routine :: rest) :
      Shift standing { standing with queue := rest }
  | watch (standing : Standing) (id : Nat) (table : String) (watcher : Watcher) :
      Shift standing { standing with registry := standing.registry.watch id table watcher }
  | leave (standing : Standing) (id : Nat) :
      Shift standing { standing with registry := standing.registry.remove id }
  | clear (standing : Standing) : Shift standing { standing with registry := .empty }
  | putBy (standing : Standing) (generation : Nat) (attachment? : Option Nat) :
      Shift standing { standing with
        former := standing.former.insert generation ⟨standing.registry, attachment?⟩ }
  | forget (standing : Standing) (generation : Nat) :
      Shift standing { standing with former := standing.former.erase generation }

namespace Engine

/-- The standing of an engine. -/
def standing (engine : Engine) : Standing :=
  ⟨engine.queue, engine.busy, engine.registry, engine.former⟩

/-- The standing of an engine becomes that of another in any number of shifts. -/
def Shifts (before after : Engine) : Prop :=
  Relation.ReflTransGen Standing.Shift before.standing after.standing

namespace Shifts

variable {first middle last : Engine}

theorem of_same (same : last.standing = first.standing) : first.Shifts last := by
  rw [Shifts, same]

theorem of_shift (shift : Standing.Shift first.standing last.standing) : first.Shifts last :=
  .single shift

theorem trans (early : first.Shifts middle) (late : middle.Shifts last) : first.Shifts last :=
  Relation.ReflTransGen.trans early late

/-- What every shift keeps is kept. -/
theorem keeps {Kept : Standing → Prop}
    (step : ∀ {before after : Standing}, Kept before → before.Shift after → Kept after)
    (shifts : first.Shifts last) (kept : Kept first.standing) : Kept last.standing := by
  rw [Shifts] at shifts
  generalize last.standing = reached at shifts ⊢
  induction shifts with
  | refl => exact kept
  | tail _ shift ih => exact step ih shift

end Shifts

/-! ## Operations -/

variable (engine : Engine)

theorem shifts_refl : engine.Shifts engine :=
  .of_same rfl

theorem shifts_schedule (executor : Nat) (job : Job) :
    engine.Shifts (engine.schedule executor job).2 := by
  rw [schedule]
  split
  · exact engine.shifts_refl
  · next free =>
      refine .of_shift (.schedule ?_ job engine.clock.number)
      simpa [isBusy, standing] using free

theorem shifts_requestBinding (id : Nat) : engine.Shifts (engine.requestBinding id).2 := by
  rw [requestBinding]
  split
  · split
    · exact engine.shifts_refl
    · exact engine.shifts_schedule id .binding
  · exact engine.shifts_refl

theorem shifts_requestCache (id : Nat) : engine.Shifts (engine.requestCache id).2 := by
  rw [requestCache]
  split
  · split
    · exact engine.shifts_refl
    · exact engine.shifts_schedule id .cache
  · exact engine.shifts_refl

theorem shifts_attach : engine.Shifts engine.attach := by
  rw [attach]
  split <;> exact .of_same rfl

theorem shifts_watch (id : Nat) (table : String) (watcher : Watcher) :
    engine.Shifts (engine.watch id table watcher) :=
  engine.shifts_attach.trans (.of_shift (.watch _ id table watcher))

theorem shifts_rename (name : String) (change : Handles → Handles) :
    engine.Shifts (engine.rename name change) :=
  .of_same rfl

theorem shifts_leave (id : Nat) : engine.Shifts (engine.leave id) :=
  .of_shift (.leave _ id)

theorem shifts_detach (attachment? : Option Nat) : engine.Shifts (engine.detach attachment?) := by
  cases attachment? <;> exact .of_same rfl

theorem shifts_closeBinding (id : Nat) : engine.Shifts (engine.closeBinding id) := by
  rw [closeBinding]
  split
  · exact engine.shifts_refl
  · split
    · exact engine.shifts_refl
    · exact (engine.shifts_leave id).trans (.of_same rfl)

theorem shifts_closeCache (id : Nat) : engine.Shifts (engine.closeCache id) := by
  rw [closeCache]
  split
  · exact engine.shifts_refl
  · split
    · exact engine.shifts_refl
    · exact (engine.shifts_leave id).trans (.of_same rfl)

theorem shifts_closeObject (id : Nat) : engine.Shifts (engine.closeObject id) :=
  (engine.shifts_closeBinding id).trans (shifts_closeCache _ id)

theorem shifts_discard (id : Nat) : engine.Shifts (engine.discard id) := by
  rw [discard]
  split
  · exact .of_same rfl
  · exact engine.shifts_closeObject id

/-- A registry that is replaced is put by only if it is held. -/
theorem shifts_renewRegistry : engine.Shifts engine.renewRegistry := by
  simp only [renewRegistry]
  split
  · exact (Shifts.of_shift (.putBy _ engine.generation engine.attachment?)).trans
      (.of_shift (.clear _))
  · exact (engine.shifts_detach engine.attachment?).trans (.of_shift (.clear _))

theorem shifts_settleGivenUp (held : Held) : engine.Shifts (engine.settleGivenUp held) := by
  cases held with
  | registry generation =>
      rw [settleGivenUp]
      split
      · next former _ =>
          refine (engine.shifts_detach former.attachment?).trans (.of_shift ?_)
          have same : (engine.detach former.attachment?).former = engine.former := by
            cases former.attachment? <;> rfl
          rw [← same]
          exact .forget _ generation
      · exact engine.shifts_refl
  | object id =>
      rw [settleGivenUp]
      split
      · exact (engine.shifts_closeObject id).trans (.of_same rfl)
      · exact engine.shifts_refl

theorem shifts_letGo (held : Held) : engine.Shifts (engine.letGo held) := by
  let lessHeld : Engine := { engine with holds := engine.holds.erase held }
  have less : engine.Shifts lessHeld := .of_same rfl
  simp only [letGo]
  split
  · exact less
  · exact less.trans (lessHeld.shifts_settleGivenUp held)

theorem shifts_createBinding (table : String) (descriptor : Descriptor) :
    engine.Shifts (engine.createBinding table descriptor).2 := by
  let id := engine.nextId
  let made : Engine :=
    { engine with
      nextId := id + 1
      bindings := engine.bindings.insert id (.create table descriptor) }
  have making : engine.Shifts made := .of_same rfl
  exact (making.trans (made.shifts_watch id table (.binding id))).trans (shifts_requestBinding _ id)

theorem shifts_setDescriptor (id : Nat) (binding : Binding) (descriptor : Descriptor) :
    engine.Shifts (engine.setDescriptor id binding descriptor).2 := by
  rw [setDescriptor]
  split
  · exact engine.shifts_refl
  · let changed :=
      engine.modifyBinding id fun binding => { binding with descriptor := descriptor }
    have changing : engine.Shifts changed := .of_same rfl
    exact changing.trans (changed.shifts_requestBinding id)

theorem shifts_setTable (id : Nat) (binding : Binding) (table : String) :
    engine.Shifts (engine.setTable id binding table).2 := by
  rw [setTable]
  split
  · exact engine.shifts_refl
  · let changed := engine.modifyBinding id fun binding => { binding with table := table }
    have changing : engine.Shifts changed := .of_same rfl
    dsimp only
    split
    · exact changing.trans (changed.shifts_requestBinding id)
    · exact (changing.trans (changed.shifts_watch id table (.binding id))).trans
        (shifts_requestBinding _ id)

theorem shifts_fetch (id : Nat) (binding : Binding) (table? : Option String)
    (descriptor? : Option Descriptor) (callback : Callback) :
    engine.Shifts (engine.fetch id binding table? descriptor? callback).2 := by
  simp only [fetch]
  split
  · exact engine.shifts_refl
  · let changed := engine.modifyBinding id fun held =>
      { held with
        waiting := held.waiting ++ [callback]
        descriptor := (descriptor?.filter (!binding.descriptor.same ·)).getD held.descriptor }
    have changing : engine.Shifts changed := .of_same rfl
    split
    · next table _ => exact changing.trans (changed.shifts_setTable id binding table)
    · exact changing.trans (changed.shifts_requestBinding id)

theorem shifts_createCache (table idField : String) :
    engine.Shifts (engine.createCache table idField).2 := by
  let id := engine.nextId
  let made : Engine :=
    { engine with
      nextId := id + 1
      caches := engine.caches.insert id (.create table idField) }
  have making : engine.Shifts made := .of_same rfl
  exact making.trans (made.shifts_watch id table (.cache id))

theorem shifts_trackItem (id : Nat) (item : Value) (callback? : Option Callback) :
    engine.Shifts (engine.trackItem id item callback?) := by
  have tracking : engine.Shifts (engine.modifyCache id fun cache =>
      { cache with
        tracked := cache.tracked.add item
        waiting := cache.waiting ++ callback?.toList.map fun callback => (item, callback) }) :=
    .of_same rfl
  exact tracking.trans (shifts_requestCache _ id)

theorem shifts_register? (reaction? : Option (Reaction Command)) :
    engine.Shifts (engine.register? reaction?).2 := by
  cases reaction? <;> exact .of_same rfl

theorem shifts_executorOf (name? : Option String) : engine.Shifts (engine.executorOf name?).2 := by
  rw [executorOf]
  split <;> exact .of_same rfl

theorem shifts_submit (table : String) (request : Request) :
    engine.Shifts (engine.submit table request).2 := by
  have numbered : engine.Shifts engine.allocate.2 := .of_same rfl
  exact numbered.trans (shifts_schedule _ engine.nextId (.request ⟨table, request.mode, request⟩))

/-- What is done for a number that there may be. -/
theorem shifts_elim {change : Nat → Engine} (changes : ∀ id, engine.Shifts (change id))
    (id? : Option Nat) : engine.Shifts (id?.elim engine change) := by
  cases id? with
  | none => exact engine.shifts_refl
  | some id => exact changes id

theorem shifts_drop (name : String) : engine.Shifts (engine.drop name) := by
  have forgetting : engine.Shifts { engine with names := engine.names.erase name } := .of_same rfl
  exact ((forgetting.trans (shifts_elim _ (shifts_leave _) _)).trans
    (shifts_elim _ (shifts_discard _) _)).trans (shifts_elim _ (shifts_discard _) _)

theorem shifts_foldl_enqueue (routines : List Routine) :
    engine.Shifts
      (routines.foldl (fun engine routine => engine.enqueue (.routine routine)) engine) := by
  induction routines generalizing engine with
  | nil => exact engine.shifts_refl
  | cons routine rest ih =>
      exact Shifts.trans (.of_shift (.enqueue _ routine)) (ih (engine.enqueue (.routine routine)))

theorem shifts_elapse (clock : Nat) (answers : List Answer) :
    engine.Shifts (engine.elapse clock answers) := by
  rcases engine.elapse_eq clock answers with ⟨now, elapsed⟩
  rw [elapsed]
  exact .of_same rfl

theorem shifts_transactDirectly (mode : AccessMode) (table : String)
    (steps : List OperationStep) :
    engine.Shifts (engine.transactDirectly mode table steps).2 := by
  let worked : Engine := { engine with store := (engine.store.performAll mode table steps).2 }
  have working : engine.Shifts worked := .of_same rfl
  exact working.trans (worked.shifts_elapse _ _)

end Engine

/-! ## Activities -/

namespace Machine

variable (machine : Machine)

open Engine (Shifts)

theorem shifts_performFeed (command : FeedCommand Command) :
    machine.engine.Shifts (machine.performFeed command).engine := by
  cases command <;> exact .of_same rfl

theorem shifts_performRegistry (command : RegistryCommand Command) :
    machine.engine.Shifts (machine.performRegistry command).engine := by
  cases command with
  | watch id table reaction =>
      have registered : machine.engine.Shifts (machine.engine.register reaction).2 := .of_same rfl
      exact registered.trans (Engine.shifts_watch _ id table _)
  | leave id => exact machine.engine.shifts_leave id
  | clear => exact .of_shift (.clear _)
  | giveUp => exact machine.engine.shifts_renewRegistry
  | renew => exact machine.engine.shifts_renewRegistry
  | dispatch batch => exact .of_same rfl
  | number => exact .of_same rfl

theorem shifts_performQueue (command : QueueCommand) :
    machine.engine.Shifts (machine.performQueue command).engine := by
  cases command with
  | push routine => exact .of_shift (.enqueue _ routine)
  | drain => exact .of_same rfl

theorem shifts_performStore (command : StoreCommand) :
    machine.engine.Shifts (machine.performStore command).engine := by
  cases command with
  | ensureOpen =>
      rw [performStore]
      split <;> exact .of_same rfl
  | close => exact .of_same rfl
  | block reason? => exact .of_same rfl
  | transact mode table steps => exact machine.engine.shifts_transactDirectly mode table steps

theorem shifts_performClock (command : ClockCommand) :
    machine.engine.Shifts (machine.performClock command).engine := by
  cases command <;> exact .of_same rfl

theorem shifts_performRequest (command : RequestCommand) :
    machine.engine.Shifts (machine.performRequest command).engine := by
  cases command with
  | submit name? table request =>
      cases name? with
      | none => exact machine.engine.shifts_submit table request
      | some name => exact (machine.engine.shifts_submit table request).trans (.of_same rfl)
  | take name =>
      rw [performRequest]
      split <;> exact .of_same rfl
  | resolve name =>
      rw [performRequest]
      split <;> exact .of_same rfl

theorem shifts_performExecutor (command : ExecutorCommand Command) :
    machine.engine.Shifts (machine.performExecutor command).engine := by
  cases command with
  | create name => exact .of_same rfl
  | run name? table mode steps isSkipped reaction reportsFailure =>
      have begun : machine.engine.Shifts
          ((machine.engine.executorOf name?).2.register reaction).2 :=
        (machine.engine.shifts_executorOf name?).trans (.of_same rfl)
      exact begun.trans (Engine.shifts_schedule _ _ _)

theorem shifts_performWatch (command : WatchCommand Command) :
    machine.engine.Shifts (machine.performWatch command).engine := by
  cases command with
  | create name table reaction =>
      have registered : machine.engine.Shifts (machine.engine.register reaction).2 := .of_same rfl
      refine Shifts.trans ?_ (Engine.shifts_elim _ (Engine.shifts_leave _) _)
      exact (registered.trans (Engine.shifts_watch _ _ table _)).trans
        (Engine.shifts_rename _ name _)
  | stop name =>
      rw [performWatch]
      split
      · exact .of_same rfl
      · exact machine.engine.shifts_leave _

theorem shifts_withBinding {name : String} {go : Nat → Binding → Machine}
    (goes : ∀ id binding, machine.engine.Shifts (go id binding).engine) :
    machine.engine.Shifts (machine.withBinding name go).engine := by
  rw [withBinding]
  split
  · exact goes _ _
  · exact .of_same rfl

theorem shifts_performIssued (command : BindingCommand Command) :
    machine.engine.Shifts (machine.performIssued command).engine := by
  cases command with
  | create name table descriptor =>
      refine Shifts.trans ?_ (Engine.shifts_elim _ (Engine.shifts_discard _) _)
      exact (machine.engine.shifts_createBinding table descriptor).trans
        (Engine.shifts_rename _ name _)
  | setDescriptor name descriptor =>
      exact machine.shifts_withBinding fun id binding =>
        machine.engine.shifts_setDescriptor id binding descriptor
  | setTable name table =>
      exact machine.shifts_withBinding fun id binding =>
        machine.engine.shifts_setTable id binding table
  | addClause name clause =>
      exact machine.shifts_withBinding fun id binding =>
        machine.engine.shifts_setDescriptor id binding _
  | refresh name =>
      exact machine.shifts_withBinding fun id _ => machine.engine.shifts_requestBinding id
  | fetch name table? descriptor? reaction =>
      apply machine.shifts_withBinding
      intro id binding
      have registered : machine.engine.Shifts (machine.engine.register reaction).2 := .of_same rfl
      have fetched := registered.trans (Engine.shifts_fetch _ id binding table? descriptor?
        ⟨machine.engine.nextId, reaction⟩)
      exact fetched.trans (.of_same rfl)
  | subscribe name reaction => exact machine.shifts_withBinding fun _ _ => .of_same rfl
  | unsubscribe name number => exact machine.shifts_withBinding fun _ _ => .of_same rfl
  | close name =>
      exact machine.shifts_withBinding fun id _ => machine.engine.shifts_closeBinding id

theorem shifts_withCache {name : String} {go : Nat → ItemCache → Machine}
    (goes : ∀ id cache, machine.engine.Shifts (go id cache).engine) :
    machine.engine.Shifts (machine.withCache name go).engine := by
  rw [withCache]
  split
  · exact goes _ _
  · exact .of_same rfl

theorem shifts_performCache (command : CacheCommand Command) :
    machine.engine.Shifts (machine.performCache command).engine := by
  cases command with
  | create name table idField? =>
      refine Shifts.trans ?_ (Engine.shifts_elim _ (Engine.shifts_discard _) _)
      exact (machine.engine.shifts_createCache table _).trans (Engine.shifts_rename _ name _)
  | request name item reaction? =>
      apply machine.shifts_withCache
      intro id cache
      have registered := machine.engine.shifts_register? reaction?
      dsimp only
      split
      · exact registered.trans (.of_same rfl)
      · exact registered.trans (Engine.shifts_trackItem _ id item _)
  | fetch name =>
      exact machine.shifts_withCache fun id _ => machine.engine.shifts_requestCache id
  | track name ids => exact machine.shifts_withCache fun _ _ => .of_same rfl
  | subscribe name reaction => exact machine.shifts_withCache fun _ _ => .of_same rfl
  | unsubscribe name number => exact machine.shifts_withCache fun _ _ => .of_same rfl
  | close name => exact machine.shifts_withCache fun id _ => machine.engine.shifts_closeCache id

theorem shifts_perform (command : Command) :
    machine.engine.Shifts (machine.perform command).engine := by
  cases command with
  | inquire inquiry => exact .of_same rfl
  | feed command => exact machine.shifts_performFeed command
  | registry command => exact machine.shifts_performRegistry command
  | queue command => exact machine.shifts_performQueue command
  | store command => exact machine.shifts_performStore command
  | clock command => exact machine.shifts_performClock command
  | request command => exact machine.shifts_performRequest command
  | executor command => exact machine.shifts_performExecutor command
  | watch command => exact machine.shifts_performWatch command
  | binding command =>
      let allocated := machine.become machine.engine.allocate.2
      have numbered : machine.engine.Shifts allocated.engine := .of_same rfl
      exact numbered.trans (allocated.shifts_performIssued (command.issued machine.engine.nextId))
  | cache command => exact machine.shifts_performCache command
  | run => exact .of_same rfl
  | drop name => exact machine.engine.shifts_drop name

/-- However the unit at the head of the queue ends, its executor is free. -/
theorem shifts_drain (ran : Nat) (failure? : Option Error) :
    machine.engine.Shifts (machine.drain ran failure?).engine := by
  cases failure? with
  | some failure => exact .of_same rfl
  | none =>
      cases queue : machine.engine.queue with
      | nil =>
          simp only [drain, queue]
          exact .of_same rfl
      | cons task rest =>
          let begun : Engine := { machine.engine with queue := rest }
          cases task with
          | routine routine =>
              simp only [drain, queue]
              have passed : machine.engine.Shifts begun := .of_shift (.pass queue)
              exact passed.trans (begun.shifts_foldl_enqueue routine.followers)
          | unit executor job clock =>
              rw [drain_unit queue]
              have freed : machine.engine.Shifts (begun.release executor) := .of_shift (.finish queue)
              cases prepared : begun.unit? executor job with
              | none =>
                  rw [runUnit_of_none (machine.become begun) prepared]
                  exact freed
              | some unit =>
                  rcases (begun.runUnit_eq unit clock).2 with ⟨monitor, now, after⟩
                  have ended :
                      machine.engine.Shifts ((begun.runUnit unit clock).2.release executor) := by
                    rw [after]
                    exact freed.trans (.of_same rfl)
                  cases outcome : (begun.runUnit unit clock).1 with
                  | ok answer =>
                      rw [runUnit_of_ok (machine.become begun) prepared outcome]
                      exact ended
                  | error failure =>
                      rw [runUnit_of_error (machine.become begun) prepared outcome]
                      exact ended

theorem shifts_takeOr {id : Nat} {otherwise : Machine → Machine}
    (goes : machine.engine.Shifts (otherwise machine).engine) :
    machine.engine.Shifts (machine.takeOr id otherwise).engine := by
  rw [takeOr]
  split
  · next taken =>
      have taking : machine.engine.Shifts (machine.engine.takeOutcome id).2 := .of_same rfl
      rw [congrArg Prod.snd taken] at taking
      exact taking
  · exact goes

theorem shifts_act (activity : Activity) :
    machine.engine.Shifts (machine.act activity).engine := by
  cases activity with
  | perform command => exact machine.shifts_perform command
  | drain ran failure? => exact machine.shifts_drain ran failure?
  | call callback notice =>
      simp only [act, call]
      split <;> exact .of_same rfl
  | flush =>
      simp only [act, flush]
      split <;> exact .of_same rfl
  | deliver delivered =>
      simp only [act, deliver]
      split <;> exact .of_same rfl
  | tell listener batch =>
      cases listener with
      | registry generation =>
          simp only [act, tell]
          split <;> exact .of_same rfl
      | callback target => exact .of_same rfl
  | visit generation table =>
      simp only [act, visit]
      split <;> exact .of_same rfl
  | letGo held => exact machine.engine.shifts_letGo held
  | alert watcher table =>
      cases watcher with
      | binding id => exact machine.engine.shifts_requestBinding id
      | cache id => exact machine.engine.shifts_requestCache id
      | callback callback => exact .of_same rfl
  | afterDrain =>
      simp only [act, afterDrain]
      split <;> exact .of_same rfl
  | resolve id => exact machine.shifts_takeOr (.of_same rfl)
  | recheck id =>
      apply machine.shifts_takeOr
      split <;> exact .of_same rfl
  | refresh id result =>
      simp only [act, refresh]
      split
      · exact .of_same rfl
      · split <;> exact .of_same rfl
  | serve id =>
      simp only [act, serve]
      split <;> exact .of_same rfl
  | refill id records =>
      simp only [act, refill]
      split <;> exact .of_same rfl
  | serveItem id item callback =>
      simp only [act, serveItem]
      split <;> exact .of_same rfl
  | spread id =>
      simp only [act, spread]
      split <;> exact .of_same rfl
  | _ => exact .of_same rfl

theorem shifts_step {machine after : Machine} (stepped : machine.step? = some after) :
    machine.engine.Shifts after.engine := by
  rcases of_step? stepped with ⟨activity, rest, _, rfl⟩
  exact shifts_act { machine with agenda := rest } activity

end Machine

/-! ## Between the steps -/

/-- The machines that are at work for an engine: on any command, after any number of steps. -/
inductive Engine.AtWork (first : Engine) : Machine → Prop where
  | start {engine : Engine} (reachable : first.Reachable engine) (command : Command) :
      AtWork first (Machine.start engine command)
  | step {machine after : Machine} (atWork : AtWork first machine)
      (stepped : machine.step? = some after) :
      AtWork first after

namespace Engine

variable {first : Engine}

/-- An engine stays at work with every step, until there is none. -/
theorem AtWork.next {machine : Machine} (atWork : first.AtWork machine) :
    first.AtWork (machine.step?.getD machine) := by
  cases stepped : machine.step? with
  | none => exact atWork
  | some after => exact atWork.step stepped

/-- What every shift keeps, calls keep. -/
theorem Reachable.keeps
    {Kept : Standing → Prop}
    (step : ∀ {before after : Standing}, Kept before → before.Shift after → Kept after)
    (kept : Kept first.standing) {engine : Engine} (reachable : first.Reachable engine) :
    Kept engine.standing := by
  induction reachable with
  | start => exact kept
  | call _ called ih =>
      rcases of_call? called with ⟨last, ran, _, _, rfl⟩
      exact Machine.run?_preserves (fun machine => Kept machine.engine.standing)
        (fun held stepped => (Machine.shifts_step stepped).keeps step held) ih ran

/-- What every shift keeps holds between all steps. -/
theorem AtWork.keeps
    {Kept : Standing → Prop}
    (step : ∀ {before after : Standing}, Kept before → before.Shift after → Kept after)
    (kept : Kept first.standing) {machine : Machine} (atWork : first.AtWork machine) :
    Kept machine.engine.standing := by
  induction atWork with
  | start reachable command => exact reachable.keeps step kept
  | step _ stepped ih => exact (Machine.shifts_step stepped).keeps step ih

end Engine

end LiveTable
