import LiveTable.Proofs.Engine.Subscriptions

/-!
# Activities beside subscriptions

Most of what a machine does is about other things than subscriptions: the engine respects
them, and what comes in front of the agenda calls none of their callbacks and passes no
batch on.  The exceptions are the delivery of a batch with what it leads to until watchers
are alerted, and the commands by which subscriptions come and go.

Commands that reach past the database, for its feed and its registry, are not considered:
they add listeners and batches of their own, and take watchers away by number.
-/

set_option autoImplicit false

namespace LiveTable

/-- Whether a command is offered by a database, and so not one on its feed or its registry. -/
def Command.isOffered : Command → Bool
  | .feed .flush => true
  | .feed _ => false
  | .registry .number => true
  | .registry _ => false
  | _ => true

/-- Whether a command is one by which subscriptions come and go. -/
def Command.subscribes : Command → Bool
  | .watch _ | .drop _ => true
  | _ => false

/-- Whether an activity is beside subscriptions: it passes no batch on and alerts no callback. -/
def Activity.isBeside : Activity → Bool
  | .deliver _ | .tell _ _ | .dispatch _ _ | .visit _ _ | .alert (.callback _) _ => false
  | .perform command => command.isOffered && !command.subscribes
  | _ => true

/-- An activity that calls no callback of a subscription, nor passes a batch on. -/
def Activity.Foreign (own : Nat → Prop) (engine : Engine) : Activity → Prop
  | .call callback _ | .serveItem _ _ callback => engine.Foreign own callback.id
  | .tell _ _ | .dispatch _ _ | .visit _ _ | .alert _ _ => False
  | _ => True

namespace Machine

variable {own : Nat → Prop} {table? : Nat → Option String} {machine after : Machine}

variable (own table?) in
/-- Subscriptions stay enrolled, and what comes in front of the agenda is foreign to them. -/
def Spares (before after : Machine) : Prop :=
  before.engine.Enrolled own table? →
    after.engine.Enrolled own table? ∧ before.engine.nextId ≤ after.engine.nextId ∧
      ∃ new, after.agenda = new ++ before.agenda ∧
        ∀ activity ∈ new, activity.Foreign own after.engine

theorem spares_of_engine
    (respects : machine.engine.Respects own table? after.engine)
    (agenda : after.agenda = machine.agenda) :
    machine.Spares own table? after := by
  intro enrolled
  rcases respects enrolled with ⟨enrolledAfter, larger⟩
  exact ⟨enrolledAfter, larger, [], agenda, List.forall_mem_nil _⟩

theorem spares_refl (machine : Machine) : machine.Spares own table? machine :=
  spares_of_engine (Engine.respects_refl _) rfl

theorem spares_say (machine : Machine) (reply : Reply) :
    machine.Spares own table? (machine.say reply) :=
  spares_of_engine (Engine.respects_refl _) rfl

theorem spares_note (machine : Machine) (event : Event) :
    machine.Spares own table? (machine.note event) :=
  spares_of_engine (Engine.respects_refl _) rfl

theorem spares_become
    {engine : Engine} (respects : machine.engine.Respects own table? engine) :
    machine.Spares own table? (machine.become engine) :=
  spares_of_engine respects rfl

theorem spares_conclude
    {outcome : Reply × Engine} (respects : machine.engine.Respects own table? outcome.2) :
    machine.Spares own table? (machine.conclude outcome) :=
  spares_of_engine respects rfl

theorem spares_next
    {new : List Activity}
    (foreign : machine.engine.Enrolled own table? →
      ∀ activity ∈ new, activity.Foreign own machine.engine) :
    machine.Spares own table? (machine.next new) :=
  fun enrolled => ⟨enrolled, Nat.le_refl _, new, rfl, foreign enrolled⟩

theorem spares_become_next
    {engine : Engine} (respects : machine.engine.Respects own table? engine)
    {new : List Activity}
    (foreign : machine.engine.Enrolled own table? →
      ∀ activity ∈ new, activity.Foreign own engine) :
    machine.Spares own table? ((machine.become engine).next new) := by
  intro enrolled
  rcases respects enrolled with ⟨enrolledAfter, larger⟩
  exact ⟨enrolledAfter, larger, new, rfl, foreign enrolled⟩

theorem spares_holding
    {engine : Engine} (respects : machine.engine.Respects own table? engine) (held : Held)
    {new : List Activity}
    (foreign : machine.engine.Enrolled own table? →
      ∀ activity ∈ new, activity.Foreign own engine) :
    machine.Spares own table? ((machine.become engine).holding held new) := by
  intro enrolled
  rcases respects.trans (Engine.respects_hold engine held) enrolled with ⟨enrolledAfter, larger⟩
  refine ⟨enrolledAfter, larger, new ++ [.letGo held], rfl, ?_⟩
  intro activity member
  rcases List.mem_append.mp member with among | last
  · exact foreign enrolled activity among
  · rw [List.mem_singleton.mp last]
    trivial

/-- What a machine spares from a later engine on, it spares from the start. -/
theorem Spares.after_become
    {engine : Engine} (respects : machine.engine.Respects own table? engine)
    (spares : (machine.become engine).Spares own table? after) :
    machine.Spares own table? after := by
  intro enrolled
  rcases respects enrolled with ⟨enrolledLater, early⟩
  rcases spares enrolledLater with ⟨enrolledAfter, late, rest⟩
  exact ⟨enrolledAfter, Nat.le_trans early late, rest⟩

theorem foreign_calls
    {engine : Engine} {callbacks : List Callback}
    (foreign : ∀ callback ∈ callbacks, engine.Foreign own callback.id) (notice : Notice) :
    ∀ activity ∈ callbacks.map (Activity.call · notice), activity.Foreign own engine :=
  List.forall_mem_map.mpr foreign

/-! ## Calls and alerts -/

theorem foreign_script (engine : Engine) (reaction : Reaction Command) :
    ∀ activity ∈ reaction.script, activity.Foreign own engine := by
  intro activity member
  rcases List.mem_flatMap.mp member with ⟨command, _, inner⟩
  simp only [List.mem_cons, List.not_mem_nil, or_false] at inner
  rcases inner with rfl | rfl <;> trivial

theorem spares_call (machine : Machine) (callback : Callback) (notice : Notice) :
    machine.Spares own table? (machine.call callback notice) := by
  rw [call]
  dsimp only
  split
  · intro enrolled
    exact ⟨{ enrolled with }, Nat.le_refl _, _, rfl, foreign_script _ callback.reaction⟩
  · exact spares_note machine _

theorem spares_flush (machine : Machine) : machine.Spares own table? machine.flush := by
  rw [flush]
  split
  · exact spares_say machine _
  · apply spares_become_next
    · exact .of_enrolled (fun enrolled => { enrolled with }) rfl
    · exact fun _ => List.forall_mem_singleton.mpr trivial

/-! ## The queue -/

/-- Whom the success of a unit is told is foreign, as are the callbacks of its job. -/
theorem foreign_succeed
    {engine : Engine} {job : Job}
    (foreign : ∀ callback ∈ job.callbacks, engine.Foreign own callback.id)
    (executor : Nat) (outcome : Outcome) :
    ∀ activity ∈ job.succeed executor outcome, activity.Foreign own engine := by
  cases job with
  | callback unit? target reportsFailure =>
      cases outcome with
      | answers answers =>
          exact List.forall_mem_singleton.mpr (foreign target List.mem_cons_self)
      | _ => exact List.forall_mem_nil _
  | request unit => exact List.forall_mem_singleton.mpr trivial
  | _ =>
      cases outcome with
      | result result => exact List.forall_mem_singleton.mpr trivial
      | _ => exact List.forall_mem_nil _

theorem foreign_fail
    {engine : Engine} {job : Job}
    (foreign : ∀ callback ∈ job.callbacks, engine.Foreign own callback.id)
    (executor : Nat) (failure : OperationFailure) :
    ∀ activity ∈ job.fail executor failure, activity.Foreign own engine := by
  cases job with
  | callback unit? target reportsFailure =>
      cases reportsFailure with
      | true => exact List.forall_mem_singleton.mpr (foreign target List.mem_cons_self)
      | false => exact List.forall_mem_nil _
  | request unit => exact List.forall_mem_singleton.mpr trivial
  | _ => exact List.forall_mem_nil _

theorem spares_runUnit
    (machine : Machine) (executor : Nat) {job : Job}
    (foreign : machine.engine.Enrolled own table? →
      ∀ callback ∈ job.callbacks, machine.engine.Foreign own callback.id) (clock ran : Nat) :
    machine.Spares own table? (machine.runUnit executor job clock ran) := by
  rw [runUnit]
  split
  · apply spares_become_next
    · exact .of_enrolled (fun enrolled => { enrolled with }) rfl
    · exact fun _ => List.forall_mem_singleton.mpr trivial
  · next unit _ =>
      have respects : machine.engine.Respects own table?
          ((machine.engine.runUnit unit clock).2.release executor) :=
        Engine.respects_runUnit machine.engine unit clock executor
      -- The callbacks of the job are foreign when the unit has run as they were before.
      have foreignAfter (enrolled : machine.engine.Enrolled own table?) :
          ∀ callback ∈ job.callbacks,
            ((machine.engine.runUnit unit clock).2.release executor).Foreign own callback.id :=
        fun callback member => (foreign enrolled callback member).mono (respects enrolled).2
      have goesOn (failure? : Option Error) :
          ∀ activity ∈ [Activity.flush, .drain ran failure?],
            activity.Foreign own ((machine.engine.runUnit unit clock).2.release executor) := by
        simp [Activity.Foreign]
      dsimp only
      split
      · apply spares_become_next respects
        intro enrolled
        exact List.forall_mem_append.mpr
          ⟨foreign_succeed (foreignAfter enrolled) executor _, goesOn none⟩
      · next failure _ =>
          apply spares_become_next respects
          intro enrolled
          exact List.forall_mem_append.mpr
            ⟨foreign_fail (foreignAfter enrolled) executor failure, goesOn _⟩

theorem spares_runRoutine (machine : Machine) (routine : Routine) (ran : Nat) :
    machine.Spares own table? (machine.runRoutine routine ran) := by
  have queued (followers : List Routine) (engine : Engine) :
      engine.Respects own table?
        (followers.foldl (fun engine follower => engine.enqueue (.routine follower)) engine) := by
    induction followers generalizing engine with
    | nil => exact Engine.respects_refl engine
    | cons follower rest ih =>
        have enqueued : engine.Respects own table? (engine.enqueue (.routine follower)) :=
          Engine.respects_enqueue engine fun _ => List.forall_mem_nil _
        exact enqueued.trans (ih _)
  intro enrolled
  rcases queued routine.followers machine.engine enrolled with ⟨enrolledAfter, larger⟩
  refine ⟨enrolledAfter, larger, _, rfl, ?_⟩
  split <;> simp [Activity.Foreign]

theorem spares_drain (machine : Machine) (ran : Nat) (failure? : Option Error) :
    machine.Spares own table? (machine.drain ran failure?) := by
  cases failure? with
  | some failure => exact spares_say machine _
  | none =>
      rw [drain]
      split
      · exact spares_say machine _
      · next task rest queue =>
          let begun : Engine := { machine.engine with queue := rest }
          have respects : machine.engine.Respects own table? begun := by
            refine .of_enrolled (fun enrolled => ?_) rfl
            refine { enrolled with queue := ?_ }
            intro other waits
            apply enrolled.queue other
            rw [queue]
            exact List.mem_cons_of_mem _ waits
          cases task with
          | unit executor job clock =>
              intro enrolled
              have foreign : ∀ callback ∈ job.callbacks, begun.Foreign own callback.id := by
                apply enrolled.queue (.unit executor job clock)
                rw [queue]
                exact List.mem_cons_self
              have runs : (machine.become begun).Spares own table? _ :=
                spares_runUnit (machine.become begun) executor (fun _ => foreign) clock (ran + 1)
              exact runs.after_become respects enrolled
          | routine routine =>
              have runs : (machine.become begun).Spares own table? _ :=
                spares_runRoutine (machine.become begun) routine (ran + 1)
              exact runs.after_become respects

theorem spares_afterDrain (machine : Machine) : machine.Spares own table? machine.afterDrain := by
  rw [afterDrain]
  split
  · exact spares_next fun _ => by simp [Activity.Foreign]
  · exact spares_refl machine

theorem foreign_running (engine : Engine) :
    ∀ activity ∈ running, activity.Foreign own engine := by
  simp [running, Activity.Foreign]

/-! ## Requests -/

theorem spares_takeOr
    {id : Nat} {otherwise : Machine → Machine}
    (spares : machine.Spares own table? (otherwise machine)) :
    machine.Spares own table? (machine.takeOr id otherwise) := by
  rw [takeOr]
  split
  · next outcome engine taken =>
      apply spares_conclude
      rw [← congrArg Prod.snd taken]
      exact Engine.respects_takeOutcome machine.engine id
  · exact spares

theorem spares_rerun (machine : Machine) (id : Nat) :
    machine.Spares own table? (machine.next (running ++ [.recheck id])) :=
  spares_next fun _ => List.forall_mem_append.mpr
    ⟨foreign_running machine.engine, List.forall_mem_singleton.mpr trivial⟩

theorem spares_resolve (machine : Machine) (id : Nat) :
    machine.Spares own table? (machine.resolve id) := by
  apply spares_takeOr
  exact spares_rerun machine id

theorem spares_recheck (machine : Machine) (id : Nat) :
    machine.Spares own table? (machine.recheck id) := by
  apply spares_takeOr
  split
  · exact spares_rerun machine id
  · exact spares_say machine _

theorem spares_performRequest (machine : Machine) (command : RequestCommand) :
    machine.Spares own table? (machine.performRequest command) := by
  cases command with
  | submit name? table request =>
      have submitted : machine.engine.Respects own table? _ :=
        Engine.respects_submit machine.engine table request
      cases name? with
      | none =>
          exact spares_become_next submitted fun _ => List.forall_mem_singleton.mpr trivial
      | some name =>
          exact spares_conclude (submitted.trans (Engine.respects_rename _ name
            fun handles => { handles with request? := some machine.engine.nextId }))
  | take name =>
      rw [performRequest]
      split
      · exact spares_say machine _
      · exact spares_conclude (Engine.respects_takeOutcome machine.engine _)
  | resolve name =>
      rw [performRequest]
      split
      · exact spares_say machine _
      · exact spares_become_next (Engine.respects_rename _ name _)
          fun _ => List.forall_mem_singleton.mpr trivial

/-! ## The store, the clock and executors -/

theorem spares_performStore (machine : Machine) (command : StoreCommand) :
    machine.Spares own table? (machine.performStore command) := by
  cases command with
  | ensureOpen =>
      rw [performStore]
      split
      · exact spares_conclude (.of_enrolled (fun enrolled => { enrolled with }) rfl)
      · exact spares_say machine _
  | close => exact spares_conclude (.of_enrolled (fun enrolled => { enrolled with }) rfl)
  | block reason? => exact spares_conclude (.of_enrolled (fun enrolled => { enrolled with }) rfl)
  | transact mode table steps =>
      exact spares_conclude (Engine.respects_transactDirectly machine.engine mode table steps)

theorem spares_performClock (machine : Machine) (command : ClockCommand) :
    machine.Spares own table? (machine.performClock command) := by
  cases command <;>
    exact spares_conclude (.of_enrolled (fun enrolled => { enrolled with }) rfl)

theorem spares_performExecutor (machine : Machine) (command : ExecutorCommand Command) :
    machine.Spares own table? (machine.performExecutor command) := by
  cases command with
  | create name =>
      exact spares_conclude ((Engine.respects_allocate machine.engine).trans
        (Engine.respects_rename _ name
          fun handles => { handles with executor? := some machine.engine.nextId }))
  | run name? table mode steps isSkipped reaction reportsFailure =>
      rw [performExecutor]
      dsimp only
      let found := (machine.engine.executorOf name?).2
      have finds : machine.engine.Respects own table? found :=
        Engine.respects_executorOf machine.engine name?
      refine spares_conclude (finds.trans fun enrolled => ?_)
      have registers : found.Respects own table? (found.register reaction).2 :=
        Engine.respects_register found reaction
      refine registers.trans (Engine.respects_schedule _ _ fun _ => ?_) enrolled
      exact List.forall_mem_singleton.mpr (Engine.foreign_allocate enrolled)

/-! ## Bindings -/

/-- A new consumer is foreign, as are those that were there and those that wait. -/
theorem foreign_add
    {engine : Engine} {consumers : Subscribers Callback} {waiting : List Callback} {new : Callback}
    (before : ∀ callback ∈ consumers.all ++ waiting, engine.Foreign own callback.id)
    (foreign : engine.Foreign own new.id) :
    ∀ callback ∈ (consumers.add new).2.all ++ waiting, engine.Foreign own callback.id := by
  intro callback member
  rcases List.mem_append.mp member with consumer | waits
  · rcases Subscribers.mem_all_add.mp consumer with earlier | rfl
    · exact before callback (List.mem_append_left _ earlier)
    · exact foreign
  · exact before callback (List.mem_append_right _ waits)

theorem spares_withBinding
    {name : String} {go : Nat → Binding → Machine}
    (goes : ∀ id binding, machine.engine.bindings.get? id = some binding →
      machine.Spares own table? (go id binding)) :
    machine.Spares own table? (machine.withBinding name go) := by
  rw [withBinding]
  split
  · next found => exact goes _ _ (Engine.held_of_binding? found)
  · exact spares_say machine _

theorem spares_fetch (machine : Machine) (name : String) (target? : Option String)
    (descriptor? : Option Descriptor) (reaction : Reaction Command) :
    machine.Spares own table?
      (machine.performIssued (.fetch name target? descriptor? reaction)) := by
  apply spares_withBinding
  intro id binding held
  let callback := (machine.engine.register reaction).1
  let registered := (machine.engine.register reaction).2
  have heldStill : registered.bindings.get? id = some binding := held
  have foreign (enrolled : machine.engine.Enrolled own table?) :
      registered.Foreign own callback.id := Engine.foreign_allocate enrolled
  have registers : machine.engine.Respects own table? registered :=
    Engine.respects_register machine.engine reaction
  have fetches (enrolled : machine.engine.Enrolled own table?) :
      registered.Respects own table?
        (registered.fetch id binding target? descriptor? callback).2 :=
    Engine.respects_fetch registered heldStill target? descriptor? fun _ => foreign enrolled
  apply spares_holding
  · exact fun enrolled => registers.trans (fetches enrolled) enrolled
  · intro enrolled
    refine List.forall_mem_append.mpr ⟨?_, List.forall_mem_singleton.mpr trivial⟩
    refine List.forall_mem_map.mpr fun result _ => ?_
    exact (foreign enrolled).mono (fetches enrolled (registers enrolled).1).2

theorem spares_subscribe (machine : Machine) (name : String) (reaction : Reaction Command) :
    machine.Spares own table? (machine.performIssued (.subscribe name reaction)) := by
  apply spares_withBinding
  intro id binding held
  apply spares_conclude
  intro enrolled
  have registers : machine.engine.Respects own table? (machine.engine.register reaction).2 :=
    Engine.respects_register machine.engine reaction
  refine registers.trans (Engine.respects_modifyBinding _ id ?_) enrolled
  intro _ former heldFormer before
  have heldStill : (machine.engine.register reaction).2.bindings.get? id = some binding := held
  rcases Option.some.inj (heldStill.symm.trans heldFormer) with rfl
  exact foreign_add before (Engine.foreign_allocate enrolled)

theorem spares_performIssued (machine : Machine) (command : BindingCommand Command) :
    machine.Spares own table? (machine.performIssued command) := by
  cases command with
  | create name table descriptor =>
      have created : machine.engine.Respects own table? _ :=
        Engine.respects_createBinding machine.engine table descriptor
      have named := created.trans (Engine.respects_rename _ name
        fun handles => { handles with binding? := some machine.engine.nextId })
      exact spares_conclude
        (named.trans (Engine.respects_discard? _ (machine.engine.handles name).binding?))
  | setDescriptor name descriptor =>
      exact spares_withBinding fun id binding _ =>
        spares_conclude (Engine.respects_setDescriptor _ id binding descriptor)
  | setTable name table =>
      apply spares_withBinding
      intro id binding held
      apply spares_conclude
      exact Engine.respects_setTable _ binding (Option.isSome_of_eq_some held) table
  | addClause name clause =>
      exact spares_withBinding fun id binding _ =>
        spares_conclude (Engine.respects_setDescriptor _ id binding _)
  | refresh name =>
      exact spares_withBinding fun id _ _ => spares_conclude (Engine.respects_requestBinding _ id)
  | fetch name target? descriptor? reaction =>
      exact spares_fetch machine name target? descriptor? reaction
  | subscribe name reaction => exact spares_subscribe machine name reaction
  | unsubscribe name number =>
      apply spares_withBinding
      intro id binding _
      apply spares_conclude
      apply Engine.respects_changeBinding
      intro former callback member
      rw [Binding.callbacks, List.mem_append] at member ⊢
      exact member.imp_left Subscribers.of_mem_all_remove
  | close name =>
      exact spares_withBinding fun id _ _ => spares_conclude (Engine.respects_closeBinding _ id)

theorem spares_performBinding (machine : Machine) (command : BindingCommand Command) :
    machine.Spares own table? (machine.performBinding command) := by
  let issued := command.issued machine.engine.nextId
  have performs :
      (machine.become machine.engine.allocate.2).Spares own table?
        ((machine.become machine.engine.allocate.2).performIssued issued) :=
    spares_performIssued _ issued
  exact performs.after_become (Engine.respects_allocate machine.engine)

theorem spares_refresh (machine : Machine) (id : Nat) (result : QueryResult) :
    machine.Spares own table? (machine.refresh id result) := by
  rw [refresh]
  split
  · exact spares_refl machine
  · next binding held =>
      split
      · exact spares_next fun _ => List.forall_mem_singleton.mpr trivial
      · apply spares_become_next
        · exact Engine.respects_changeBinding machine.engine id fun _ _ member => member
        · intro enrolled
          refine List.forall_mem_append.mpr ⟨?_, List.forall_mem_singleton.mpr trivial⟩
          apply foreign_calls
          intro callback member
          exact (enrolled.bindings held).2 callback (List.mem_append_left _ member)

theorem spares_serve (machine : Machine) (id : Nat) :
    machine.Spares own table? (machine.serve id) := by
  rw [serve]
  split
  · exact spares_refl machine
  · next binding held =>
      apply spares_become_next
      · apply Engine.respects_changeBinding
        intro former callback member
        rcases List.mem_append.mp member with consumer | none
        · exact List.mem_append_left _ consumer
        · contradiction
      · intro enrolled
        apply foreign_calls
        intro callback member
        exact (enrolled.bindings held).2 callback (List.mem_append_right _ member)

/-! ## Caches -/

theorem spares_withCache
    {name : String} {go : Nat → ItemCache → Machine}
    (goes : ∀ id cache, machine.engine.caches.get? id = some cache →
      machine.Spares own table? (go id cache)) :
    machine.Spares own table? (machine.withCache name go) := by
  rw [withCache]
  split
  · next found => exact goes _ _ (Engine.held_of_cache? found)
  · exact spares_say machine _

theorem spares_requestItem (machine : Machine) (name : String) (item : Value)
    (reaction? : Option (Reaction Command)) :
    machine.Spares own table? (machine.performCache (.request name item reaction?)) := by
  apply spares_withCache
  intro id cache _
  let registered := (machine.engine.register? reaction?).2
  have registers : machine.engine.Respects own table? registered :=
    Engine.respects_register? machine.engine reaction?
  have foreign (enrolled : machine.engine.Enrolled own table?) :
      ∀ callback ∈ (machine.engine.register? reaction?).1,
        registered.Foreign own callback.id :=
    Engine.foreign_register? enrolled reaction?
  dsimp only
  split
  · apply spares_holding registers
    intro enrolled
    refine List.forall_mem_append.mpr ⟨?_, List.forall_mem_singleton.mpr trivial⟩
    refine List.forall_mem_map.mpr fun callback among => ?_
    exact foreign enrolled callback (Option.mem_toList.mp among)
  · apply spares_conclude
    intro enrolled
    have tracks : registered.Respects own table? _ :=
      Engine.respects_trackItem registered id item fun _ => foreign enrolled
    exact registers.trans tracks enrolled

theorem spares_subscribeItems (machine : Machine) (name : String) (reaction : Reaction Command) :
    machine.Spares own table? (machine.performCache (.subscribe name reaction)) := by
  apply spares_withCache
  intro id cache held
  apply spares_conclude
  intro enrolled
  have registers : machine.engine.Respects own table? (machine.engine.register reaction).2 :=
    Engine.respects_register machine.engine reaction
  refine registers.trans (Engine.respects_modifyCache _ id ?_) enrolled
  intro _ former heldFormer before
  have heldStill : (machine.engine.register reaction).2.caches.get? id = some cache := held
  rcases Option.some.inj (heldStill.symm.trans heldFormer) with rfl
  exact foreign_add before (Engine.foreign_allocate enrolled)

theorem spares_performCache (machine : Machine) (command : CacheCommand Command) :
    machine.Spares own table? (machine.performCache command) := by
  cases command with
  | create name table idField? =>
      have created : machine.engine.Respects own table? _ :=
        Engine.respects_createCache machine.engine table
          (idField?.getD machine.engine.config.idField)
      have named := created.trans (Engine.respects_rename _ name
        fun handles => { handles with cache? := some machine.engine.nextId })
      exact spares_conclude
        (named.trans (Engine.respects_discard? _ (machine.engine.handles name).cache?))
  | track name ids =>
      exact spares_withCache fun id _ _ =>
        spares_conclude (Engine.respects_changeCache _ id fun _ _ member => member)
  | request name item reaction? => exact spares_requestItem machine name item reaction?
  | fetch name =>
      exact spares_withCache fun id _ _ => spares_conclude (Engine.respects_requestCache _ id)
  | subscribe name reaction => exact spares_subscribeItems machine name reaction
  | unsubscribe name number =>
      apply spares_withCache
      intro id cache _
      apply spares_conclude
      apply Engine.respects_changeCache
      intro former callback member
      rw [ItemCache.callbacks, List.mem_append] at member ⊢
      exact member.imp_left Subscribers.of_mem_all_remove
  | close name =>
      exact spares_withCache fun id _ _ => spares_conclude (Engine.respects_closeCache _ id)

theorem spares_refill (machine : Machine) (id : Nat) (records : List Record) :
    machine.Spares own table? (machine.refill id records) := by
  rw [refill]
  split
  · exact spares_refl machine
  · next cache held =>
      apply spares_become_next
      · apply Engine.respects_changeCache
        intro former callback member
        rcases List.mem_append.mp member with consumer | none
        · exact List.mem_append_left _ consumer
        · contradiction
      · intro enrolled
        refine List.forall_mem_append.mpr ⟨?_, List.forall_mem_singleton.mpr trivial⟩
        refine List.forall_mem_map.mpr fun waiting among => ?_
        apply (enrolled.caches held).2
        exact List.mem_append_right _ (List.mem_map_of_mem among)

theorem spares_serveItem (machine : Machine) (id : Nat) (item : Value) {callback : Callback}
    (foreign : machine.engine.Foreign own callback.id) :
    machine.Spares own table? (machine.serveItem id item callback) := by
  rw [serveItem]
  split
  · exact spares_refl machine
  · exact spares_next fun _ => List.forall_mem_singleton.mpr foreign

theorem spares_spread (machine : Machine) (id : Nat) :
    machine.Spares own table? (machine.spread id) := by
  rw [spread]
  split
  · exact spares_refl machine
  · next cache held =>
      apply spares_next
      intro enrolled
      apply foreign_calls
      intro callback member
      exact (enrolled.caches held).2 callback (List.mem_append_left _ member)

/-! ## Every activity beside subscriptions -/

theorem spares_perform (machine : Machine) {command : Command} (offered : command.isOffered)
    (other : command.subscribes = false) :
    machine.Spares own table? (machine.perform command) := by
  cases command with
  | inquire inquiry => exact spares_say machine _
  | feed command =>
      cases command with
      | flush =>
          exact spares_holding (Engine.respects_refl machine.engine) _
            fun _ => List.forall_mem_singleton.mpr trivial
      | _ => contradiction
  | registry command =>
      cases command with
      | number => exact spares_conclude (Engine.respects_allocate machine.engine)
      | _ => contradiction
  | queue command =>
      cases command with
      | push routine =>
          exact spares_conclude (Engine.respects_enqueue machine.engine
            fun _ => List.forall_mem_nil _)
      | drain => exact spares_next fun _ => List.forall_mem_singleton.mpr trivial
  | store command => exact spares_performStore machine command
  | clock command => exact spares_performClock machine command
  | request command => exact spares_performRequest machine command
  | executor command => exact spares_performExecutor machine command
  | watch command => contradiction
  | binding command => exact spares_performBinding machine command
  | cache command => exact spares_performCache machine command
  | run => exact spares_next fun _ => foreign_running machine.engine
  | drop name => contradiction

/-- What is beside subscriptions spares them, if it serves nobody but foreign callbacks. -/
theorem spares_act (machine : Machine) {activity : Activity} (beside : activity.isBeside)
    (served : ∀ cache item callback, activity = .serveItem cache item callback →
      machine.engine.Foreign own callback.id) :
    machine.Spares own table? (machine.act activity) := by
  cases activity with
  | perform command =>
      rcases Bool.and_eq_true_iff.mp beside with ⟨offered, other⟩
      exact spares_perform machine offered (by simpa using other)
  | note label => exact spares_note machine _
  | answer reply => exact spares_say machine reply
  | call callback notice => exact spares_call machine callback notice
  | flush => exact spares_flush machine
  | deliver delivered => contradiction
  | tell listener batch => contradiction
  | dispatch generation batch => contradiction
  | visit generation table => contradiction
  | letGo held => exact spares_become (Engine.respects_letGo machine.engine held)
  | alert watcher table =>
      cases watcher with
      | binding id => exact spares_become (Engine.respects_requestBinding machine.engine id)
      | cache id => exact spares_become (Engine.respects_requestCache machine.engine id)
      | callback callback => contradiction
  | drain ran failure? => exact spares_drain machine ran failure?
  | noteDrained => exact spares_note machine _
  | afterDrain => exact spares_afterDrain machine
  | resolve id => exact spares_resolve machine id
  | recheck id => exact spares_recheck machine id
  | settle id outcome =>
      exact spares_become (.of_enrolled (fun enrolled => { enrolled with }) rfl)
  | refresh id result => exact spares_refresh machine id result
  | serve id => exact spares_serve machine id
  | refill id records => exact spares_refill machine id records
  | serveItem cache item callback =>
      exact spares_serveItem machine cache item (served cache item callback rfl)
  | spread id => exact spares_spread machine id

end Machine

end LiveTable
