import LiveTable.Proofs.Engine.Retaining

/-!
# What one step can do

A step takes the first activity off the agenda.  As a rule the engine retains what it can,
and what comes in front of the agenda passes no result on: it calls only callbacks that stand
elsewhere than with a binding or a cache, or one that was registered just now.

There are two exceptions.  When a unit of a binding or a cache succeeds, its result comes first
on the agenda; and the activities that pass a result on do what they are there for.
`Machine.Turn` says what a step can be, and all that holds of whole courses is proved from it.
-/

set_option autoImplicit false

namespace LiveTable

/-! ## What comes up -/

/-- Whether an activity passes on what an execution or a fetch came to. -/
def Activity.isApplying : Activity → Bool
  | .refresh _ _ | .serve _ | .refill _ _ | .serveItem _ _ _ | .spread _ => true
  | _ => false

/-- Whether an activity is about to call a callback that listens or watches. -/
def Activity.bears (number : Nat) : Activity → Bool
  | .tell (.callback callback) _ => callback.id == number
  | .alert watcher _ => watcher.calls number
  | _ => false

/--
An activity that passes no result on and calls nobody, and that is about to call callbacks only
if they may be.
-/
def Activity.Ordinary (MayBear : Nat → Prop) : Activity → Prop
  | .tell (.callback callback) _ => MayBear callback.id
  | .alert watcher _ => ∀ number, watcher.calls number → MayBear number
  | .call _ _ | .refresh _ _ | .serve _ | .refill _ _ | .serveItem _ _ _ | .spread _ => False
  | _ => True

/-- Ordinary activities, and before them at most one call of a callback that may be called. -/
inductive Orderly (MayBear MayCall : Nat → Prop) : List Activity → Prop where
  | quiet {activities : List Activity}
      (ordinary : ∀ activity ∈ activities, activity.Ordinary MayBear) :
      Orderly MayBear MayCall activities
  | calls {callback : Callback} {notice : Notice} {activities : List Activity}
      (mayCall : MayCall callback.id)
      (ordinary : ∀ activity ∈ activities, activity.Ordinary MayBear) :
      Orderly MayBear MayCall (.call callback notice :: activities)

/-- The callback that a command on bindings registers under a number, with its place. -/
def BindingCommand.registers? (engine : Engine) (number : Nat) :
    BindingCommand Command → Option (Post × Nat)
  | .fetch name _ _ _ => (engine.binding? name).map fun found => (.fetcher found.1, number)
  | .subscribe name _ => (engine.binding? name).map fun found => (.consumer found.1, number)
  | _ => none

/-- What a command registers does not depend on how its descriptors are issued. -/
theorem BindingCommand.registers?_issued (engine : Engine) (number occasion : Nat)
    (command : BindingCommand Command) :
    (command.issued occasion).registers? engine number = command.registers? engine number := by
  cases command <;> rfl

/-- The callback that a command registers, with the place where it is to stand. -/
def Command.registers? (engine : Engine) : Command → Option (Post × Nat)
  | .binding command => command.registers? engine (engine.nextId + 1)
  | .cache (.request name _ (some _)) =>
    (engine.cache? name).map fun found => (.requester found.1, engine.nextId)
  | .cache (.subscribe name _) =>
    (engine.cache? name).map fun found => (.follower found.1, engine.nextId)
  | .feed (.listen _) => some (.elsewhere, engine.nextId)
  | .registry (.watch _ _ _) => some (.elsewhere, engine.nextId)
  | .watch (.create _ _ _) => some (.elsewhere, engine.nextId)
  | .executor (.run name? _ _ _ _ _ _) => some (.elsewhere, (engine.executorOf name?).2.nextId)
  | _ => none

/-- The number that a command makes watch a table by hand. -/
def Command.watches? : Command → Option Nat
  | .registry (.watch id _ _) => some id
  | _ => none

namespace Orderly

variable {MayBear MayCall : Nat → Prop} {activities later : List Activity}

theorem append (orderly : Orderly MayBear MayCall activities)
    (ordinary : ∀ activity ∈ later, activity.Ordinary MayBear) :
    Orderly MayBear MayCall (activities ++ later) := by
  cases orderly with
  | quiet before => exact .quiet (List.forall_mem_append.mpr ⟨before, ordinary⟩)
  | calls mayCall before => exact .calls mayCall (List.forall_mem_append.mpr ⟨before, ordinary⟩)

theorem single {activity : Activity} (ordinary : activity.Ordinary MayBear) :
    Orderly MayBear MayCall [activity] :=
  .quiet (List.forall_mem_singleton.mpr ordinary)

theorem call {callback : Callback} (mayCall : MayCall callback.id) (notice : Notice) :
    Orderly MayBear MayCall [.call callback notice] :=
  .calls mayCall (List.forall_mem_nil _)

/-- A callback that may be called, if there is something to call it with. -/
theorem of_option {Given : Type} {callback : Callback} (mayCall : MayCall callback.id)
    (notice : Given → Notice) (given? : Option Given) :
    Orderly MayBear MayCall (given?.toList.map fun given => .call callback (notice given)) := by
  cases given? with
  | none => exact .quiet (List.forall_mem_nil _)
  | some given => exact call mayCall (notice given)

end Orderly

/-! ## Units that run -/

/-- A unit that is run, for whom, and what it comes to. -/
structure UnitRun where
  executor : Nat
  job : Job
  unit : WorkUnit
  outcome : Except OperationFailure Outcome

/-- For whom a result is there. -/
inductive Owner where
  | binding (id : Nat)
  | cache (id : Nat)
deriving DecidableEq

/-- A unit of a binding or a cache that succeeds. -/
structure Success where
  owner : Owner
  unit : WorkUnit
  result : QueryResult

/-- The success of a run, if it is one of a binding or a cache. -/
def UnitRun.success? (run : UnitRun) : Option Success :=
  match run.job, run.outcome with
  | .binding, .ok (.result result) => some ⟨.binding run.executor, run.unit, result⟩
  | .cache, .ok (.result result) => some ⟨.cache run.executor, run.unit, result⟩
  | _, _ => none

namespace Machine

variable (machine : Machine)

/-- The unit that the next step runs. -/
def unitRun? : Option UnitRun :=
  match machine.agenda, machine.engine.queue with
  | .drain _ none :: _, .unit executor job clock :: rest =>
    let engine := { machine.engine with queue := rest }
    (engine.unit? executor job).map fun unit =>
      ⟨executor, job, unit, (engine.runUnit unit clock).1⟩
  | _, _ => none

/-- The success that the next step comes to. -/
def success? : Option Success :=
  machine.unitRun?.bind UnitRun.success?

/-- The callback that the next step registers, with the place where it is to stand. -/
def registers? : Option (Post × Nat) :=
  match machine.agenda with
  | .perform command :: _ => command.registers? machine.engine
  | _ => none

/-- The number that the next step makes watch a table by hand. -/
def watches? : Option Nat :=
  match machine.agenda with
  | .perform command :: _ => command.watches?
  | _ => none

/-- The binding or the cache that the next step gives a result. -/
def renews? : Option Nat :=
  match machine.agenda with
  | .refresh id _ :: _ | .refill id _ :: _ => some id
  | _ => none

/-- What may come up in the next step. -/
def terms : Terms where
  joins post number := machine.registers? = some (post, number)
  watches id := machine.watches? = some id
  renews id := machine.renews? = some id

/--
The next step may have the callback of a number called, although it passes no result on: the
callback stands elsewhere or is about to be called, or it is being registered.
-/
def MayCall (number : Nat) : Prop :=
  machine.engine.Elsewhere number ∨
    (∃ activity, machine.agenda.head? = some activity ∧ activity.bears number) ∨
    ∃ post, machine.registers? = some (post, number)

/-! ## Minding callbacks -/

/-- The engine retains what it can, and what comes in front of the agenda is ordinary. -/
def Minds (terms : Terms) (MayBear MayCall : Nat → Prop) (before after : Machine) : Prop :=
  before.engine.Retains terms after.engine ∧
    ∃ added, after.agenda = added ++ before.agenda ∧ Orderly MayBear MayCall added

section Minding

variable {terms : Terms} {MayBear MayCall : Nat → Prop} {machine after : Machine}

theorem minds_of_engine (retains : machine.engine.Retains terms after.engine)
    (agenda : after.agenda = machine.agenda) : machine.Minds terms MayBear MayCall after :=
  ⟨retains, [], agenda, .quiet (List.forall_mem_nil _)⟩

theorem minds_same (engine : after.engine = machine.engine)
    (agenda : after.agenda = machine.agenda) : machine.Minds terms MayBear MayCall after :=
  minds_of_engine (engine ▸ Engine.retains_refl _) agenda

theorem minds_say (machine : Machine) (reply : Reply) :
    machine.Minds terms MayBear MayCall (machine.say reply) :=
  minds_same rfl rfl

theorem minds_become {engine : Engine} (retains : machine.engine.Retains terms engine) :
    machine.Minds terms MayBear MayCall (machine.become engine) :=
  minds_of_engine retains rfl

theorem minds_conclude {outcome : Reply × Engine}
    (retains : machine.engine.Retains terms outcome.2) :
    machine.Minds terms MayBear MayCall (machine.conclude outcome) :=
  minds_of_engine retains rfl

theorem minds_next {engine : Engine} (retains : machine.engine.Retains terms engine)
    {added : List Activity} (orderly : Orderly MayBear MayCall added) :
    machine.Minds terms MayBear MayCall ((machine.become engine).next added) :=
  ⟨retains, added, rfl, orderly⟩

theorem minds_holding {engine : Engine} (retains : machine.engine.Retains terms engine)
    (held : Held) {added : List Activity} (orderly : Orderly MayBear MayCall added) :
    machine.Minds terms MayBear MayCall ((machine.become engine).holding held added) := by
  refine ⟨retains.trans (engine.retains_hold held), added ++ [.letGo held], rfl, ?_⟩
  exact orderly.append (List.forall_mem_singleton.mpr trivial)

/-- What a machine minds from a later engine on, it minds from the start. -/
theorem Minds.after_become {engine : Engine} (retains : machine.engine.Retains terms engine)
    (minds : (machine.become engine).Minds terms MayBear MayCall after) :
    machine.Minds terms MayBear MayCall after :=
  ⟨retains.trans minds.1, minds.2⟩

theorem ordinary_script (reaction : Reaction Command) :
    ∀ activity ∈ reaction.script, activity.Ordinary MayBear := by
  intro activity member
  rcases List.mem_flatMap.mp member with ⟨command, _, inner⟩
  simp only [List.mem_cons, List.not_mem_nil, or_false] at inner
  rcases inner with rfl | rfl <;> trivial

theorem minds_call (machine : Machine) (callback : Callback) (notice : Notice) :
    machine.Minds terms MayBear MayCall (machine.call callback notice) := by
  simp only [call]
  split
  · exact ⟨.of_same rfl rfl (Nat.le_refl _) rfl rfl rfl rfl, _, rfl, .quiet (ordinary_script _)⟩
  · exact minds_same rfl rfl

/-! ### Deliveries -/

theorem minds_flush (machine : Machine) : machine.Minds terms MayBear MayCall machine.flush := by
  rw [flush]
  split
  · exact machine.minds_say _
  · apply minds_next
    · exact .of_same rfl rfl (Nat.le_refl _) rfl rfl rfl rfl
    · exact .single trivial

theorem minds_deliver (machine : Machine) (delivered : Nat)
    (elsewhere : ∀ number, machine.engine.Elsewhere number → MayBear number) :
    machine.Minds terms MayBear MayCall (machine.deliver delivered) := by
  simp only [deliver]
  split
  · exact minds_conclude (.of_same rfl rfl (Nat.le_refl _) rfl rfl rfl rfl)
  · apply minds_next
    · exact .of_same rfl rfl (Nat.le_refl _) rfl rfl rfl rfl
    · refine .append (.quiet (List.forall_mem_map.mpr fun listener listens => ?_))
        (List.forall_mem_singleton.mpr trivial)
      cases listener with
      | registry generation => trivial
      | callback callback => exact elsewhere callback.id (.listens listens rfl)

theorem minds_tell (machine : Machine) (listener : Listener) (batch : List Change)
    (bears : ∀ number, (Activity.tell listener batch).bears number → MayCall number) :
    machine.Minds terms MayBear MayCall (machine.tell listener batch) := by
  cases listener with
  | registry generation =>
      rw [tell]
      split
      · exact minds_holding (Engine.retains_refl _) _ (.single trivial)
      · exact minds_same rfl rfl
  | callback callback =>
      exact minds_next (Engine.retains_refl _)
        (.call (bears callback.id (beq_self_eq_true callback.id)) _)

theorem minds_visit (machine : Machine) (generation : Nat) (table : String)
    (elsewhere : ∀ number, machine.engine.Elsewhere number → MayBear number) :
    machine.Minds terms MayBear MayCall (machine.visit generation table) := by
  rw [visit]
  split
  · next registry found =>
      refine minds_next (Engine.retains_refl _) (.quiet (List.forall_mem_map.mpr ?_))
      intro watcher watches number calls
      rcases List.mem_map.mp watches with ⟨entry, listed, rfl⟩
      apply elsewhere
      rw [Engine.registryOf?] at found
      split at found
      · rw [← Option.some.inj found] at listed
        exact .watches ⟨table, entry, listed, calls⟩
      · rcases Option.map_eq_some_iff.mp found with ⟨former, held, rfl⟩
        exact .watched held ⟨table, entry, listed, calls⟩
  · exact minds_same rfl rfl

theorem minds_alert (machine : Machine) (watcher : Watcher) (table : String)
    (bears : ∀ number, (Activity.alert watcher table).bears number → MayCall number) :
    machine.Minds terms MayBear MayCall (machine.alert watcher table) := by
  cases watcher with
  | binding id => exact minds_become (machine.engine.retains_requestBinding id)
  | cache id => exact minds_become (machine.engine.retains_requestCache id)
  | callback callback =>
      exact minds_next (Engine.retains_refl _)
        (.call (bears callback.id (beq_self_eq_true callback.id)) _)

/-! ### Commands -/

theorem minds_performFeed (machine : Machine) (command : FeedCommand Command)
    (joins : ∀ post number,
      (Command.feed command).registers? machine.engine = some (post, number) →
      terms.joins post number) :
    machine.Minds terms MayBear MayCall (machine.performFeed command) := by
  cases command with
  | listen reaction =>
      apply minds_conclude
      apply machine.engine.retains_listeners (Nat.le_succ _)
      · intro callback listens
        rcases Subscribers.mem_all_add.mp listens with before | new
        · exact .inl before
        · rcases Listener.callback.inj new with rfl
          exact .inr ⟨Nat.le_refl _, Nat.lt_succ_self _, joins _ _ rfl⟩
      · exact fun numbered => numbered.add _
  | unlisten id =>
      apply minds_conclude
      exact machine.engine.retains_listeners (Nat.le_refl _)
        (fun _ listens => .inl (Subscribers.of_mem_all_remove listens))
        fun numbered => numbered.remove id
  | publish batch => exact minds_conclude (.of_same rfl rfl (Nat.le_refl _) rfl rfl rfl rfl)
  | flush => exact minds_holding (Engine.retains_refl _) _ (.single trivial)

theorem calls_callback {callback : Callback} {number : Nat}
    (calls : (Watcher.callback callback).calls number) : number = callback.id :=
  (beq_iff_eq.mp calls).symm

theorem minds_performRegistry (machine : Machine) (command : RegistryCommand Command)
    (joins : ∀ post number,
      (Command.registry command).registers? machine.engine = some (post, number) →
      terms.joins post number)
    (watches : ∀ id, (Command.registry command).watches? = some id → terms.watches id) :
    machine.Minds terms MayBear MayCall (machine.performRegistry command) := by
  cases command with
  | watch id table reaction =>
      apply minds_conclude
      apply machine.engine.retains_watch (Nat.le_succ _) table
      · intro number calls
        rcases calls_callback calls with rfl
        exact ⟨Nat.le_refl _, Nat.lt_succ_self _, joins _ _ rfl⟩
      · exact fun left => absurd (watches id rfl) left
  | leave id => exact minds_conclude (machine.engine.retains_leave id)
  | dispatch batch =>
      exact minds_holding (Engine.retains_refl _) _ (.quiet (by simp [Activity.Ordinary]))
  | clear => exact minds_conclude (machine.engine.retains_clear _ _)
  | giveUp => exact minds_conclude machine.engine.retains_renewRegistry
  | renew => exact minds_conclude machine.engine.retains_renewRegistry
  | number => exact minds_conclude machine.engine.retains_allocate

theorem minds_performQueue (machine : Machine) (command : QueueCommand) :
    machine.Minds terms MayBear MayCall (machine.performQueue command) := by
  cases command with
  | push routine =>
      apply minds_conclude
      exact machine.engine.retains_enqueue (Nat.le_refl _) (List.forall_mem_nil _)
  | drain => exact minds_next (Engine.retains_refl _) (.single trivial)

theorem minds_performStore (machine : Machine) (command : StoreCommand) :
    machine.Minds terms MayBear MayCall (machine.performStore command) := by
  have stores (store : Store) :
      machine.engine.Retains terms { machine.engine with store := store } :=
    .of_same rfl rfl (Nat.le_refl _) rfl rfl rfl rfl
  cases command with
  | ensureOpen =>
      rw [performStore]
      split
      · exact minds_conclude (stores _)
      · exact machine.minds_say _
  | close => exact minds_conclude (stores _)
  | block reason? => exact minds_conclude (stores _)
  | transact mode table steps =>
      exact minds_conclude (machine.engine.retains_transactDirectly mode table steps)

theorem minds_performClock (machine : Machine) (command : ClockCommand) :
    machine.Minds terms MayBear MayCall (machine.performClock command) := by
  cases command <;>
    exact minds_conclude (.of_same rfl rfl (Nat.le_refl _) rfl rfl rfl rfl)

theorem minds_performRequest (machine : Machine) (command : RequestCommand) :
    machine.Minds terms MayBear MayCall (machine.performRequest command) := by
  cases command with
  | submit name? table request =>
      have submitted : machine.engine.Retains terms (machine.engine.submit table request).2 :=
        machine.engine.retains_submit table request
      cases name? with
      | none => exact minds_next submitted (.single trivial)
      | some name =>
          apply minds_conclude
          exact submitted.trans (.of_same rfl rfl (Nat.le_refl _) rfl rfl rfl rfl)
  | take name =>
      rw [performRequest]
      split
      · exact machine.minds_say _
      · exact minds_conclude (machine.engine.retains_takeOutcome _)
  | resolve name =>
      rw [performRequest]
      split
      · exact machine.minds_say _
      · exact minds_next (machine.engine.retains_rename name _)
          (.single trivial)

theorem minds_performExecutor (machine : Machine) (command : ExecutorCommand Command)
    (joins : ∀ post number,
      (Command.executor command).registers? machine.engine = some (post, number) →
      terms.joins post number) :
    machine.Minds terms MayBear MayCall (machine.performExecutor command) := by
  cases command with
  | create name =>
      apply minds_conclude
      exact machine.engine.retains_allocate.trans
        (.of_same rfl rfl (Nat.le_refl _) rfl rfl rfl rfl)
  | run name? table mode steps isSkipped reaction reportsFailure =>
      apply minds_conclude
      refine (machine.engine.retains_executorOf name?).trans ?_
      apply Engine.retains_schedule _ _ (Nat.le_succ _)
      refine List.forall_mem_singleton.mpr ⟨Nat.le_refl _, Nat.lt_succ_self _, ?_⟩
      exact joins _ _ rfl

theorem minds_performWatch (machine : Machine) (command : WatchCommand Command)
    (fresh : machine.engine.Apart machine.engine.nextId)
    (joins : ∀ post number,
      (Command.watch command).registers? machine.engine = some (post, number) →
      terms.joins post number) :
    machine.Minds terms MayBear MayCall (machine.performWatch command) := by
  cases command with
  | create name table reaction =>
      have watched : machine.engine.Retains terms ((machine.engine.register reaction).2.watch
          machine.engine.nextId table (.callback ⟨machine.engine.nextId, reaction⟩)) := by
        apply machine.engine.retains_watch (Nat.le_succ _) table
        · intro number calls
          rcases calls_callback calls with rfl
          exact ⟨Nat.le_refl _, Nat.lt_succ_self _, joins _ _ rfl⟩
        · rintro - - closed
          rw [Engine.hasClosedBinding, Engine.hasClosedCache, fresh.unheld.1, fresh.unheld.2]
            at closed
          simp at closed
      apply minds_conclude
      exact (watched.trans (Engine.retains_rename _ name _)).trans
        (Engine.retains_elim _ (Engine.retains_leave _) _)
  | stop name =>
      rw [performWatch]
      split
      · exact machine.minds_say _
      · exact minds_conclude (machine.engine.retains_leave _)

theorem minds_withBinding (machine : Machine) (name : String) {go : Nat → Binding → Machine}
    (goes : ∀ id binding, machine.engine.binding? name = some (id, binding) →
      machine.engine.bindings.get? id = some binding →
      machine.Minds terms MayBear MayCall (go id binding)) :
    machine.Minds terms MayBear MayCall (machine.withBinding name go) := by
  rw [withBinding]
  split
  · next id binding found => exact goes id binding found (Engine.held_of_binding? found)
  · exact machine.minds_say _

theorem minds_performIssued (machine : Machine) (command : BindingCommand Command)
    (fresh : machine.engine.Apart machine.engine.nextId)
    (mayCall : ∀ post number, terms.joins post number → MayCall number)
    (joins : ∀ post number,
      command.registers? machine.engine machine.engine.nextId = some (post, number) →
      terms.joins post number) :
    machine.Minds terms MayBear MayCall (machine.performIssued command) := by
  cases command with
  | create name table descriptor =>
      apply minds_conclude
      exact ((machine.engine.retains_createBinding fresh table descriptor).trans
        (Engine.retains_rename _ name _)).trans (Engine.retains_elim _ (Engine.retains_discard _) _)
  | setDescriptor name descriptor =>
      exact machine.minds_withBinding name fun id binding _ _ =>
        minds_conclude (machine.engine.retains_setDescriptor id binding descriptor)
  | setTable name table =>
      exact machine.minds_withBinding name fun id binding _ held =>
        minds_conclude (machine.engine.retains_setTable held rfl table)
  | addClause name clause =>
      exact machine.minds_withBinding name fun id binding _ _ =>
        minds_conclude (machine.engine.retains_setDescriptor id binding _)
  | refresh name =>
      exact machine.minds_withBinding name fun id _ _ _ =>
        minds_conclude (machine.engine.retains_requestBinding id)
  | fetch name table? descriptor? reaction =>
      apply machine.minds_withBinding name
      intro id binding found held
      have joined : terms.joins (.fetcher id) machine.engine.nextId := by
        apply joins
        simp only [BindingCommand.registers?, found, Option.map_some]
      apply minds_holding (machine.engine.retains_fetch held table? descriptor? reaction joined)
      exact .append (.of_option (mayCall _ _ joined) _ _) (List.forall_mem_singleton.mpr trivial)
  | subscribe name reaction =>
      apply machine.minds_withBinding name
      intro id binding found held
      apply minds_conclude
      apply machine.engine.retains_subscribe held reaction
      apply joins
      simp only [BindingCommand.registers?, found, Option.map_some]
  | unsubscribe name number =>
      exact machine.minds_withBinding name fun id _ _ _ =>
        minds_conclude (machine.engine.retains_unsubscribe id number)
  | close name =>
      exact machine.minds_withBinding name fun id _ _ _ =>
        minds_conclude (machine.engine.retains_closeBinding id)

theorem minds_withCache (machine : Machine) (name : String) {go : Nat → ItemCache → Machine}
    (goes : ∀ id cache, machine.engine.cache? name = some (id, cache) →
      machine.engine.caches.get? id = some cache →
      machine.Minds terms MayBear MayCall (go id cache)) :
    machine.Minds terms MayBear MayCall (machine.withCache name go) := by
  rw [withCache]
  split
  · next id cache found => exact goes id cache found (Engine.held_of_cache? found)
  · exact machine.minds_say _

theorem minds_performCache (machine : Machine) (command : CacheCommand Command)
    (fresh : machine.engine.Apart machine.engine.nextId)
    (mayCall : ∀ post number, terms.joins post number → MayCall number)
    (joins : ∀ post number,
      (Command.cache command).registers? machine.engine = some (post, number) →
      terms.joins post number) :
    machine.Minds terms MayBear MayCall (machine.performCache command) := by
  cases command with
  | create name table idField? =>
      apply minds_conclude
      exact ((machine.engine.retains_createCache fresh table _).trans
        (Engine.retains_rename _ name _)).trans (Engine.retains_elim _ (Engine.retains_discard _) _)
  | track name ids =>
      exact machine.minds_withCache name fun id _ _ _ =>
        minds_conclude (machine.engine.retains_track id ids)
  | request name item reaction? =>
      apply machine.minds_withCache name
      intro id cache found _
      have joined (some : reaction?.isSome) :
          terms.joins (.requester id) machine.engine.nextId := by
        apply joins
        cases reaction? with
        | none => contradiction
        | some reaction => simp only [Command.registers?, found, Option.map_some]
      have registered : machine.engine.Retains terms (machine.engine.register? reaction?).2 := by
        cases reaction? with
        | none => exact Engine.retains_refl _
        | some reaction => exact machine.engine.retains_allocate
      dsimp only
      split
      · apply minds_holding registered
        refine .append ?_ (List.forall_mem_singleton.mpr trivial)
        cases reaction? with
        | none => exact .quiet (List.forall_mem_nil _)
        | some reaction => exact .call (mayCall _ _ (joined rfl)) _
      · exact minds_conclude (machine.engine.retains_trackItem id item reaction? joined)
  | fetch name =>
      exact machine.minds_withCache name fun id _ _ _ =>
        minds_conclude (machine.engine.retains_requestCache id)
  | subscribe name reaction =>
      apply machine.minds_withCache name
      intro id cache found held
      apply minds_conclude
      apply machine.engine.retains_subscribeItems held reaction
      apply joins
      simp only [Command.registers?, found, Option.map_some]
  | unsubscribe name number =>
      exact machine.minds_withCache name fun id _ _ _ =>
        minds_conclude (machine.engine.retains_unsubscribeItems id number)
  | close name =>
      exact machine.minds_withCache name fun id _ _ _ =>
        minds_conclude (machine.engine.retains_closeCache id)

theorem minds_perform (machine : Machine) (command : Command)
    (fresh : ∀ id, machine.engine.Apart id)
    (mayCall : ∀ post number, terms.joins post number → MayCall number)
    (joins : ∀ post number, command.registers? machine.engine = some (post, number) →
      terms.joins post number)
    (watches : ∀ id, command.watches? = some id → terms.watches id) :
    machine.Minds terms MayBear MayCall (machine.perform command) := by
  cases command with
  | inquire inquiry => exact machine.minds_say _
  | feed command => exact machine.minds_performFeed command joins
  | registry command => exact machine.minds_performRegistry command joins watches
  | queue command => exact machine.minds_performQueue command
  | store command => exact machine.minds_performStore command
  | clock command => exact machine.minds_performClock command
  | request command => exact machine.minds_performRequest command
  | executor command => exact machine.minds_performExecutor command joins
  | watch command => exact machine.minds_performWatch command (fresh _) joins
  | binding command =>
      let allocated := machine.become machine.engine.allocate.2
      have numbered : machine.engine.Retains terms allocated.engine :=
        machine.engine.retains_allocate
      apply Minds.after_become numbered
      apply allocated.minds_performIssued _ (numbered.apart (fresh _)) mayCall
      intro post number registers
      rw [BindingCommand.registers?_issued] at registers
      exact joins post number registers
  | cache command => exact machine.minds_performCache command (fresh _) mayCall joins
  | run => exact minds_next (Engine.retains_refl _) (.quiet (by simp [running, Activity.Ordinary]))
  | drop name => exact minds_conclude (machine.engine.retains_drop name)

/-! ### The queue -/

theorem minds_runRoutine (machine : Machine) (routine : Routine) (ran : Nat) :
    machine.Minds terms MayBear MayCall (machine.runRoutine routine ran) := by
  refine ⟨machine.engine.retains_foldl_enqueue _, _, rfl, .quiet ?_⟩
  split <;> simp [Activity.Ordinary]

theorem orderly_fail {job : Job} (mayCall : ∀ callback ∈ job.callbacks, MayCall callback.id)
    (executor : Nat) (failure : OperationFailure) :
    Orderly MayBear MayCall (job.fail executor failure) := by
  cases job with
  | callback unit? target reportsFailure =>
      cases reportsFailure with
      | true => exact .call (mayCall target List.mem_cons_self) _
      | false => exact .quiet (List.forall_mem_nil _)
  | request unit => exact .single trivial
  | _ => exact .quiet (List.forall_mem_nil _)

/-- Unless it is one of a binding or a cache, a success is told to somebody who stands elsewhere. -/
theorem orderly_succeed {run : UnitRun} {outcome : Outcome}
    (mayCall : ∀ callback ∈ run.job.callbacks, MayCall callback.id)
    (succeeds : run.outcome = .ok outcome) (none : run.success? = none) :
    Orderly MayBear MayCall (run.job.succeed run.executor outcome) := by
  rcases run with ⟨executor, job, unit, _⟩
  subst succeeds
  cases job with
  | callback unit? target reportsFailure =>
      cases outcome with
      | answers answers => exact .call (mayCall target List.mem_cons_self) _
      | _ => exact .quiet (List.forall_mem_nil _)
  | request unit => exact .single trivial
  | binding =>
      cases outcome with
      | result result => contradiction
      | _ => exact .quiet (List.forall_mem_nil _)
  | cache =>
      cases outcome with
      | result result => contradiction
      | _ => exact .quiet (List.forall_mem_nil _)

end Minding

/-! ## The turns of a machine -/

end Machine

/-- The activity that passes a success on. -/
def Success.told (success : Success) : Activity :=
  match success.owner with
  | .binding id => .refresh id success.result
  | .cache id => .refill id (success.result.records?.getD [])

/-- A success passes on what its unit came to, before everything else. -/
theorem UnitRun.succeed_eq {run : UnitRun} {success : Success} {outcome : Outcome}
    (succeeds : run.outcome = .ok outcome) (found : run.success? = some success) :
    run.job.succeed run.executor outcome = [success.told] := by
  rcases run with ⟨executor, job, unit, _⟩
  subst succeeds
  cases job <;> cases outcome <;> first | contradiction | (cases found; rfl)

namespace Machine

/-- A unit of a binding or a cache succeeds, and its result comes first on the agenda. -/
structure SucceedsTo (machine : Machine) (success : Success) (after : Machine) : Prop where
  succeeds : machine.success? = some success
  agenda : ∃ ran rest, machine.agenda = .drain ran none :: rest ∧
    after.agenda = success.told :: .flush :: .drain (ran + 1) none :: rest
  bindings : after.engine.bindings = machine.engine.bindings
  caches : after.engine.caches = machine.engine.caches

/-- What a step can be. -/
inductive Turn (machine after : Machine) : Prop where
  /-- What comes in front of the agenda passes no result on. -/
  | ordinary {added : List Activity} (agenda : after.agenda = added ++ machine.agenda.tail)
      (orderly : Orderly machine.engine.Elsewhere machine.MayCall added)
      (noSuccess : machine.success? = none)
      (appliesNot : ∀ activity, machine.agenda.head? = some activity →
        activity.isApplying = false)
  | succeeded {success : Success} (succeeds : machine.SucceedsTo success after)
  /-- A result is passed on. -/
  | applied {activity : Activity} {rest : List Activity}
      (agenda : machine.agenda = activity :: rest)
      (applies : activity.isApplying) (does : after = act { machine with agenda := rest } activity)

/-- The engine of a machine retains what it can while the machine takes a turn. -/
structure TurnsTo (machine after : Machine) : Prop where
  retains : machine.engine.Retains machine.terms after.engine
  turn : machine.Turn after

variable {machine after : Machine}

section Draining

variable {ran : Nat} {rest : List Activity}

/-- What is minded while the queue is drained, without a success, is an ordinary turn. -/
theorem TurnsTo.of_minds {failure? : Option Error}
    (agenda : machine.agenda = .drain ran failure? :: rest)
    (noSuccess : machine.success? = none)
    (minds : Minds machine.terms machine.engine.Elsewhere machine.MayCall
      { machine with agenda := rest } after) :
    machine.TurnsTo after := by
  rcases minds with ⟨retains, added, agendaAfter, orderly⟩
  refine ⟨retains, .ordinary ?_ orderly noSuccess ?_⟩
  · rw [agendaAfter, agenda]
    rfl
  · rw [agenda]
    rintro _ ⟨⟩
    rfl

variable {executor clock : Nat} {job : Job} {waiting : List Task} {begun : Engine}

theorem unitRun?_of_queue (agenda : machine.agenda = .drain ran none :: rest)
    (queue : machine.engine.queue = .unit executor job clock :: waiting)
    (begins : begun = { machine.engine with queue := waiting }) :
    machine.unitRun? = (begun.unit? executor job).map fun unit =>
      ⟨executor, job, unit, (begun.runUnit unit clock).1⟩ := by
  simp only [unitRun?, agenda, queue, begins]

/-- A unit that is run succeeds for a binding or a cache, or passes nothing on. -/
theorem turn_runUnit (agenda : machine.agenda = .drain ran none :: rest)
    (queue : machine.engine.queue = .unit executor job clock :: waiting)
    (begins : begun = { machine.engine with queue := waiting }) :
    machine.TurnsTo
      ((become { machine with agenda := rest } begun).runUnit executor job clock (ran + 1)) := by
  have dequeued : machine.engine.Retains machine.terms begun :=
    begins ▸ machine.engine.retains_dequeue queue
  have mayCall (callback : Callback) (called : callback ∈ job.callbacks) :
      machine.MayCall callback.id :=
    .inl (.queued (queue ▸ List.mem_cons_self) called rfl)
  have runs := unitRun?_of_queue agenda queue begins
  cases prepared : begun.unit? executor job with
  | none =>
      rw [prepared] at runs
      rw [runUnit_of_none _ prepared]
      refine .of_minds agenda (by rw [success?, runs]; rfl) (.after_become dequeued ?_)
      apply minds_next
      · exact .of_same rfl rfl (Nat.le_refl _) rfl rfl rfl rfl
      · exact .single trivial
  | some unit =>
      let run : UnitRun := ⟨executor, job, unit, (begun.runUnit unit clock).1⟩
      have found : machine.success? = run.success? := by
        rw [success?, runs, prepared]
        rfl
      have ranUnit : begun.Retains machine.terms
          ((begun.runUnit unit clock).2.release executor) :=
        begun.retains_runUnit unit clock executor
      have goesOn (failure? : Option Error) :
          ∀ activity ∈ [Activity.flush, .drain (ran + 1) failure?],
            activity.Ordinary machine.engine.Elsewhere := by
        simp [Activity.Ordinary]
      cases outcome : (begun.runUnit unit clock).1 with
      | error failure =>
          rw [runUnit_of_error _ prepared outcome]
          refine .of_minds agenda ?_ (.after_become dequeued (minds_next ranUnit ?_))
          · rw [found, UnitRun.success?]
            simp only [run, outcome]
          · exact (orderly_fail mayCall executor failure).append (goesOn _)
      | ok answer =>
          rw [runUnit_of_ok _ prepared outcome]
          cases success : run.success? with
          | none =>
              refine .of_minds agenda (found.trans success)
                (.after_become dequeued (minds_next ranUnit ?_))
              exact (orderly_succeed mayCall outcome success).append (goesOn _)
          | some made =>
              rcases (begun.runUnit_eq unit clock).2 with ⟨monitor, now, after⟩
              refine ⟨dequeued.trans ranUnit,
                .succeeded ⟨found.trans success, ⟨ran, rest, agenda, ?_⟩, ?_, ?_⟩⟩
              · change (job.succeed executor answer ++ [.flush, .drain (ran + 1) none]) ++ rest = _
                rw [show job.succeed executor answer = [made.told] from
                  UnitRun.succeed_eq outcome success]
                rfl
              · change (begun.runUnit unit clock).2.bindings = _
                rw [after, begins]
              · change (begun.runUnit unit clock).2.caches = _
                rw [after, begins]

/-- Draining the queue is an ordinary turn unless it runs a unit that succeeds. -/
theorem turn_drain {failure? : Option Error}
    (agenda : machine.agenda = .drain ran failure? :: rest) :
    machine.TurnsTo (drain { machine with agenda := rest } ran failure?) := by
  cases failure? with
  | some failure =>
      refine .of_minds agenda ?_ (minds_say _ _)
      simp only [success?, unitRun?, agenda, Option.bind_none]
  | none =>
      cases queue : machine.engine.queue with
      | nil =>
          simp only [drain, queue]
          refine .of_minds agenda ?_ (minds_say _ _)
          simp only [success?, unitRun?, agenda, queue, Option.bind_none]
      | cons task waiting =>
          simp only [drain, queue]
          cases task with
          | routine routine =>
              have dequeued : machine.engine.Retains machine.terms
                  { machine.engine with queue := waiting } :=
                machine.engine.retains_dequeue queue
              refine .of_minds agenda ?_ (.after_become dequeued (minds_runRoutine _ routine _))
              simp only [success?, unitRun?, agenda, queue, Option.bind_none]
          | unit executor job clock => exact turn_runUnit agenda queue rfl

end Draining

/-! ### Passing results on -/

theorem retains_refresh (machine : Machine) {terms : Terms} {id : Nat} (renews : terms.renews id)
    (result : QueryResult) :
    machine.engine.Retains terms (machine.refresh id result).engine := by
  rw [refresh]
  split
  · exact Engine.retains_refl _
  · split
    · exact Engine.retains_refl _
    · apply machine.engine.retains_changeBinding id (Nat.le_refl _)
      · intro binding _
        exact {
          held := fun held => held
          consumers := .refl _
          fetchers := .refl _
          closed := fun closed => closed
          emptied := .inl
          value := fun left => absurd renews left
          version := fun left => absurd renews left }
      · exact .inr fun _ => rfl

theorem retains_serve (machine : Machine) {terms : Terms} (id : Nat) :
    machine.engine.Retains terms (machine.serve id).engine := by
  rw [serve]
  split
  · exact Engine.retains_refl _
  · apply machine.engine.retains_changeBinding id (Nat.le_refl _)
    · exact fun _ _ => .of_joins (.refl _) (.of_sublist (List.nil_sublist _)) rfl rfl rfl
    · exact .inr fun _ => rfl

theorem retains_refill (machine : Machine) {terms : Terms} {id : Nat} (renews : terms.renews id)
    (records : List Record) :
    machine.engine.Retains terms (machine.refill id records).engine := by
  rw [refill]
  split
  · exact Engine.retains_refl _
  · apply machine.engine.retains_changeCache id (Nat.le_refl _)
    · intro cache _
      exact {
        held := fun held => held
        followers := .refl _
        requesters := .of_sublist (List.nil_sublist _)
        closed := fun closed => closed
        emptied := .inl
        items := fun left => absurd renews left
        requests := fun left => absurd renews left
        idField := fun _ named => named
        tracked := fun _ tracked => tracked }
    · exact .inr fun _ => rfl

theorem engine_serveItem (machine : Machine) (id : Nat) (item : Value) (callback : Callback) :
    (machine.serveItem id item callback).engine = machine.engine := by
  rw [serveItem]
  split <;> rfl

theorem engine_spread (machine : Machine) (id : Nat) :
    (machine.spread id).engine = machine.engine := by
  rw [spread]
  split <;> rfl

/-! ### Every step -/

variable {terms : Terms} {MayBear MayCall : Nat → Prop}

theorem minds_takeOr (machine : Machine) {id : Nat} {otherwise : Machine → Machine}
    (goes : machine.Minds terms MayBear MayCall (otherwise machine)) :
    machine.Minds terms MayBear MayCall (machine.takeOr id otherwise) := by
  rw [takeOr]
  split
  · next taken =>
      apply minds_conclude
      rw [← congrArg Prod.snd taken]
      exact machine.engine.retains_takeOutcome id
  · exact goes

theorem minds_rerun (machine : Machine) (id : Nat) :
    machine.Minds terms MayBear MayCall (machine.next (running ++ [.recheck id])) :=
  ⟨Engine.retains_refl _, _, rfl, .quiet (by simp [running, Activity.Ordinary])⟩

/-- What neither drains the queue nor passes a result on is ordinary. -/
theorem minds_act (machine : Machine) {activity : Activity}
    (appliesNot : activity.isApplying = false)
    (drainsNot : ∀ ran failure?, activity ≠ .drain ran failure?)
    (fresh : ∀ id, machine.engine.Apart id)
    (elsewhere : ∀ number, machine.engine.Elsewhere number → MayBear number)
    (bears : ∀ number, activity.bears number → MayCall number)
    (mayCall : ∀ post number, terms.joins post number → MayCall number)
    (joins : ∀ command, activity = .perform command → ∀ post number,
      command.registers? machine.engine = some (post, number) → terms.joins post number)
    (watches : ∀ command, activity = .perform command → ∀ id, command.watches? = some id →
      terms.watches id) :
    machine.Minds terms MayBear MayCall (machine.act activity) := by
  cases activity with
  | perform command =>
      exact machine.minds_perform command fresh mayCall (joins command rfl) (watches command rfl)
  | note label => exact minds_same rfl rfl
  | answer reply => exact machine.minds_say reply
  | call callback notice => exact machine.minds_call callback notice
  | flush => exact machine.minds_flush
  | deliver delivered => exact machine.minds_deliver delivered elsewhere
  | tell listener batch => exact machine.minds_tell listener batch bears
  | dispatch generation batch =>
      refine ⟨Engine.retains_refl _, _, rfl, ?_⟩
      exact .quiet (List.forall_mem_map.mpr fun _ _ => trivial)
  | visit generation table => exact machine.minds_visit generation table elsewhere
  | letGo held => exact minds_become (machine.engine.retains_letGo held)
  | alert watcher table => exact machine.minds_alert watcher table bears
  | drain ran failure? => exact absurd rfl (drainsNot ran failure?)
  | noteDrained => exact minds_same rfl rfl
  | afterDrain =>
      rw [act, afterDrain]
      split
      · exact ⟨Engine.retains_refl _, _, rfl, .quiet (by simp [Activity.Ordinary])⟩
      · exact minds_same rfl rfl
  | resolve id => exact machine.minds_takeOr (machine.minds_rerun id)
  | recheck id =>
      apply machine.minds_takeOr
      split
      · exact machine.minds_rerun id
      · exact machine.minds_say _
  | settle id outcome => exact minds_become (.of_same rfl rfl (Nat.le_refl _) rfl rfl rfl rfl)
  | _ => contradiction

/-- What passes a result on gives one only to the binding or the cache that it names. -/
theorem retains_applying {activity : Activity} {rest : List Activity}
    (agenda : machine.agenda = activity :: rest) (applies : activity.isApplying) :
    machine.engine.Retains machine.terms (act { machine with agenda := rest } activity).engine := by
  cases activity with
  | refresh id result =>
      have renews : machine.terms.renews id := by simp only [Machine.terms, renews?, agenda]
      exact retains_refresh { machine with agenda := rest } renews result
  | serve id => exact retains_serve { machine with agenda := rest } id
  | refill id records =>
      have renews : machine.terms.renews id := by simp only [Machine.terms, renews?, agenda]
      exact retains_refill { machine with agenda := rest } renews records
  | serveItem id item callback =>
      rw [act, engine_serveItem]
      exact Engine.retains_refl _
  | spread id =>
      rw [act, engine_spread]
      exact Engine.retains_refl _
  | _ => contradiction

/-- Every step is a turn. -/
theorem turn_step (fresh : ∀ id, machine.engine.Apart id) (stepped : machine.step? = some after) :
    machine.TurnsTo after := by
  rcases of_step? stepped with ⟨activity, rest, agenda, rfl⟩
  by_cases applies : activity.isApplying
  · exact ⟨retains_applying agenda applies, .applied agenda applies rfl⟩
  by_cases drains : ∃ ran failure?, activity = .drain ran failure?
  · rcases drains with ⟨ran, failure?, rfl⟩
    exact turn_drain agenda
  have minds : Minds machine.terms machine.engine.Elsewhere machine.MayCall
      { machine with agenda := rest } (act { machine with agenda := rest } activity) := by
    apply minds_act
    · exact Bool.not_eq_true _ ▸ applies
    · exact fun ran failure? is => drains ⟨ran, failure?, is⟩
    · exact fresh
    · exact fun _ stands => stands
    · exact fun number bears => .inr (.inl ⟨activity, by rw [agenda]; rfl, bears⟩)
    · exact fun post number joins => .inr (.inr ⟨post, joins⟩)
    · rintro command rfl post number registers
      simpa only [Machine.terms, registers?, agenda] using registers
    · rintro command rfl id watches
      simpa only [Machine.terms, watches?, agenda] using watches
  rcases minds with ⟨retains, added, agendaAfter, orderly⟩
  refine ⟨retains, .ordinary ?_ orderly ?_ ?_⟩
  · rw [agendaAfter, agenda]
    rfl
  · rw [success?, unitRun?, agenda]
    split
    · next is _ => exact absurd ⟨_, _, (List.cons.inj is).1⟩ drains
    · rfl
  · rw [agenda]
    rintro _ ⟨⟩
    exact Bool.not_eq_true _ ▸ applies

end Machine

/-! ## Numbers that are given out -/

namespace Engine

variable (engine : Engine)

@[simp]
theorem nextId_schedule (executor : Nat) (job : Job) :
    (engine.schedule executor job).2.nextId = engine.nextId := by
  rw [schedule]
  split <;> rfl

@[simp]
theorem nextId_requestBinding (id : Nat) :
    (engine.requestBinding id).2.nextId = engine.nextId := by
  rw [requestBinding]
  split
  · split
    · rfl
    · exact engine.nextId_schedule id .binding
  · rfl

@[simp]
theorem nextId_requestCache (id : Nat) : (engine.requestCache id).2.nextId = engine.nextId := by
  rw [requestCache]
  split
  · split
    · rfl
    · exact engine.nextId_schedule id .cache
  · rfl

@[simp]
theorem nextId_watch (id : Nat) (table : String) (watcher : Watcher) :
    (engine.watch id table watcher).nextId = engine.nextId :=
  engine.attach_frame.2.2.2.2.2.2.2.2

@[simp]
theorem nextId_setTable (id : Nat) (binding : Binding) (table : String) :
    (engine.setTable id binding table).2.nextId = engine.nextId := by
  rw [setTable]
  split
  · rfl
  · dsimp only
    split <;> simp [modifyBinding]

@[simp]
theorem nextId_fetch (id : Nat) (binding : Binding) (table? : Option String)
    (descriptor? : Option Descriptor) (callback : Callback) :
    (engine.fetch id binding table? descriptor? callback).2.nextId = engine.nextId := by
  rw [fetch]
  dsimp only
  split
  · rfl
  · split <;> simp [modifyBinding]

theorem nextId_elim_leave (id? : Option Nat) :
    (id?.elim engine engine.leave).nextId = engine.nextId := by
  cases id? <;> rfl

@[simp]
theorem nextId_trackItem (id : Nat) (item : Value) (callback? : Option Callback) :
    (engine.trackItem id item callback?).nextId = engine.nextId :=
  nextId_requestCache _ id

end Engine

namespace Machine

variable {machine : Machine} {post : Post} {number : Nat}

theorem performIssued_registers {command : BindingCommand Command}
    (registers : command.registers? machine.engine machine.engine.nextId = some (post, number)) :
    number = machine.engine.nextId ∧ number < (machine.performIssued command).engine.nextId := by
  cases command with
  | fetch name table? descriptor? reaction =>
      rcases Option.map_eq_some_iff.mp registers with ⟨⟨id, binding⟩, found, same⟩
      rcases (Prod.mk.inj same).2 with rfl
      refine ⟨rfl, ?_⟩
      simp only [performIssued, withBinding, found]
      change machine.engine.nextId < (Engine.fetch _ id binding table? descriptor? _).2.nextId
      rw [Engine.nextId_fetch]
      exact Nat.lt_succ_self _
  | subscribe name reaction =>
      rcases Option.map_eq_some_iff.mp registers with ⟨⟨id, binding⟩, found, same⟩
      rcases (Prod.mk.inj same).2 with rfl
      refine ⟨rfl, ?_⟩
      simp only [performIssued, withBinding, found]
      exact Nat.lt_succ_self _
  | _ => contradiction

theorem performCache_registers {command : CacheCommand Command}
    (registers : (Command.cache command).registers? machine.engine = some (post, number)) :
    number = machine.engine.nextId ∧ number < (machine.performCache command).engine.nextId := by
  cases command with
  | request name item reaction? =>
      cases reaction? with
      | none => contradiction
      | some reaction =>
          rcases Option.map_eq_some_iff.mp registers with ⟨⟨id, cache⟩, found, same⟩
          rcases (Prod.mk.inj same).2 with rfl
          refine ⟨rfl, ?_⟩
          simp only [performCache, withCache, found]
          split
          · exact Nat.lt_succ_self _
          · change machine.engine.nextId < (Engine.trackItem _ id item _).nextId
            rw [Engine.nextId_trackItem]
            exact Nat.lt_succ_self _
  | subscribe name reaction =>
      rcases Option.map_eq_some_iff.mp registers with ⟨⟨id, cache⟩, found, same⟩
      rcases (Prod.mk.inj same).2 with rfl
      refine ⟨rfl, ?_⟩
      simp only [performCache, withCache, found]
      exact Nat.lt_succ_self _
  | _ => contradiction

/-- A callback that is registered gets a number that was not given out before. -/
theorem registers?_bounds {command : Command}
    (registers : command.registers? machine.engine = some (post, number)) :
    machine.engine.nextId ≤ number ∧ number < (machine.perform command).engine.nextId := by
  let engine := machine.engine
  have succ : engine.nextId ≤ engine.nextId ∧ engine.nextId < engine.nextId + 1 :=
    ⟨Nat.le_refl _, Nat.lt_succ_self _⟩
  cases command with
  | feed command =>
      cases command <;> cases registers
      exact succ
  | registry command =>
      cases command <;> cases registers
      next id table reaction =>
        change _ ∧ engine.nextId < ((engine.register reaction).2.watch id table _).nextId
        rw [Engine.nextId_watch]
        exact succ
  | watch command =>
      cases command <;> cases registers
      next name table reaction =>
        let watched := (engine.register reaction).2.watch engine.nextId table
          (.callback ⟨engine.nextId, reaction⟩)
        let named := watched.rename name fun handles =>
          { handles with watch? := some engine.nextId }
        change _ ∧ engine.nextId < ((engine.handles name).watch?.elim named named.leave).nextId
        rw [Engine.nextId_elim_leave]
        change _ ∧ engine.nextId < watched.nextId
        rw [Engine.nextId_watch]
        exact succ
  | executor command =>
      cases command <;> cases registers
      next name? table mode steps isSkipped reaction reportsFailure =>
        let chosen := (engine.executorOf name?).2
        have larger : engine.nextId ≤ chosen.nextId := by
          simp only [chosen, Engine.executorOf]
          split
          · exact Nat.le_refl _
          · exact Nat.le_succ _
        refine ⟨larger, ?_⟩
        change chosen.nextId < ((chosen.register reaction).2.schedule _ _).2.nextId
        rw [Engine.nextId_schedule]
        exact Nat.lt_succ_self _
  | binding command =>
      let allocated := machine.become engine.allocate.2
      have issued : (command.issued engine.nextId).registers? allocated.engine
          allocated.engine.nextId = some (post, number) := by
        rw [BindingCommand.registers?_issued]
        exact registers
      rcases performIssued_registers issued with ⟨rfl, below⟩
      exact ⟨Nat.le_succ _, below⟩
  | cache command =>
      rcases performCache_registers registers with ⟨rfl, below⟩
      exact ⟨Nat.le_refl _, below⟩
  | _ => contradiction

end Machine

end LiveTable
