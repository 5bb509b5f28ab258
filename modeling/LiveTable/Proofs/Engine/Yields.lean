import LiveTable.Proofs.Engine.Weights

/-!
# What single activities lead to

Every activity but those of a drain, of a delivery and of a resolved request yields what is
lighter than itself.  A command yields activities that are lighter than itself, unless it
dispatches a batch by hand; what it puts into the queue or the outbox is another matter.
-/

set_option autoImplicit false

namespace LiveTable

/-! ## The queue -/

namespace Engine

variable (engine : Engine)

@[simp]
theorem queue_detach (attachment? : Option Nat) :
    (engine.detach attachment?).queue = engine.queue := by
  cases attachment? <;> rfl

@[simp]
theorem queue_closeBinding (id : Nat) : (engine.closeBinding id).queue = engine.queue := by
  rw [closeBinding]
  split
  · rfl
  · split <;> rfl

@[simp]
theorem queue_closeCache (id : Nat) : (engine.closeCache id).queue = engine.queue := by
  rw [closeCache]
  split
  · rfl
  · split <;> rfl

@[simp]
theorem queue_closeObject (id : Nat) : (engine.closeObject id).queue = engine.queue := by
  simp [closeObject]

@[simp]
theorem queue_settleGivenUp (held : Held) : (engine.settleGivenUp held).queue = engine.queue := by
  cases held <;> (rw [settleGivenUp]; split <;> simp)

@[simp]
theorem queue_letGo (held : Held) : (engine.letGo held).queue = engine.queue := by
  simp only [letGo]
  split <;> simp

theorem queue_foldl_enqueue (routines : List Routine) :
    (routines.foldl (fun engine routine => engine.enqueue (.routine routine)) engine).queue =
      engine.queue ++ routines.map .routine := by
  induction routines generalizing engine with
  | nil => exact (List.append_nil _).symm
  | cons routine rest ih =>
      rw [List.foldl_cons, ih, enqueue, List.append_assoc]
      rfl

theorem queue_schedule (executor : Nat) {job : Job} {rank : Nat}
    (ranks : ∀ clock, (Task.unit executor job clock).rank = rank) :
    ∃ added, (engine.schedule executor job).2.queue = engine.queue ++ added ∧
      ∀ task ∈ added, task.rank = rank := by
  rw [schedule]
  split
  · exact ⟨[], (List.append_nil _).symm, List.forall_mem_nil _⟩
  · exact ⟨_, rfl, List.forall_mem_singleton.mpr (ranks _)⟩

theorem queue_requestBinding (id : Nat) :
    ∃ added, (engine.requestBinding id).2.queue = engine.queue ++ added ∧
      ∀ task ∈ added, task.rank = 9 := by
  rw [requestBinding]
  split
  · split
    · exact ⟨[], (List.append_nil _).symm, List.forall_mem_nil _⟩
    · exact engine.queue_schedule id fun _ => rfl
  · exact ⟨[], (List.append_nil _).symm, List.forall_mem_nil _⟩

theorem queue_requestCache (id : Nat) :
    ∃ added, (engine.requestCache id).2.queue = engine.queue ++ added ∧
      ∀ task ∈ added, task.rank = 9 := by
  rw [requestCache]
  split
  · split
    · exact ⟨[], (List.append_nil _).symm, List.forall_mem_nil _⟩
    · exact engine.queue_schedule id fun _ => rfl
  · exact ⟨[], (List.append_nil _).symm, List.forall_mem_nil _⟩

end Engine

/-! ## Commands -/

/-- Whether a command alerts the watchers of tables by hand. -/
def Command.dispatches : Command → Bool
  | .registry (.dispatch _) => true
  | _ => false

namespace Machine

variable {machine : Machine}

theorem light_singleton {activity : Activity} {top : Weight} (plain : activity.isPlain)
    (lighter : activity.weight < top) : Light top [activity] :=
  light_of_isPlain (List.forall_mem_singleton.mpr ⟨plain, lighter⟩)

theorem light_letGo (held : Held) {rank : Nat} (room : 0 < rank) (size : Nat) :
    Light (toLex (rank, size)) [.letGo held] :=
  light_singleton rfl (lighter_of_rank room _ _)

theorem light_running {rank : Nat} (room : 3 < rank) (size : Nat) :
    Light (toLex (rank, size)) running where
  loose := loose_cons rfl (.cons_cons ⟨0, none, rfl⟩ (.singleton _))
  lighter := by
    simp only [running, List.forall_mem_cons, List.not_mem_nil, false_implies, implies_true,
      and_true]
    exact ⟨lighter_of_rank (Nat.zero_lt_of_lt room) _ _, lighter_of_rank room _ _⟩

/-- Callbacks that a command registers and calls at once are smaller than the command. -/
theorem light_calls_at_once {calls : List Activity} {command : Command}
    (smaller : ∀ activity ∈ calls, ∃ callback notice,
      activity = .call callback notice ∧ sizeOf callback.reaction < sizeOf command)
    (reply : Reply) (held : Held) :
    Light (Activity.perform command).weight (calls ++ [.answer reply] ++ [.letGo held]) := by
  refine Light.append (Light.append ?_ ?_) (light_letGo held (Nat.zero_lt_succ 5) _)
  · apply light_of_isPlain
    intro activity member
    rcases smaller activity member with ⟨callback, notice, rfl, smaller⟩
    exact ⟨rfl, lighter_of_size 6 smaller⟩
  · exact light_singleton rfl (lighter_of_rank (Nat.zero_lt_succ 5) _ _)

/-- What a command leads to comes in front of the agenda; it is light unless that is a dispatch. -/
def Puts (machine : Machine) (command : Command) (after : Machine) : Prop :=
  ∃ new, after.agenda = new ++ machine.agenda ∧ Loose new ∧
    (command.dispatches = false → Light (Activity.perform command).weight new)

variable {command : Command}

theorem puts_nothing {after : Machine} (agenda : after.agenda = machine.agenda) :
    machine.Puts command after :=
  ⟨[], agenda, loose_nil, fun _ => light_nil⟩

theorem puts_light {after : Machine} {new : List Activity}
    (light : Light (Activity.perform command).weight new)
    (agenda : after.agenda = new ++ machine.agenda) : machine.Puts command after :=
  ⟨new, agenda, light.loose, fun _ => light⟩

theorem puts_performFeed (inner : FeedCommand Command) :
    machine.Puts (.feed inner) (machine.performFeed inner) := by
  cases inner with
  | flush =>
      have flushes : Light (Activity.perform (.feed .flush)).weight [.flush] :=
        light_singleton rfl (lighter_of_rank (by decide : 2 < 6) _ _)
      exact puts_light (flushes.append (light_letGo _ (Nat.zero_lt_succ 5) _)) rfl
  | _ => exact puts_nothing rfl

theorem puts_performRegistry (inner : RegistryCommand Command) :
    machine.Puts (.registry inner) (machine.performRegistry inner) := by
  cases inner with
  | dispatch batch =>
      refine ⟨[.dispatch _ batch, .answer .nothing, .letGo _], rfl, ?_, fun other => ?_⟩
      · exact loose_of_isPlain (by simp [Activity.isPlain])
      · contradiction
  | _ => exact puts_nothing rfl

theorem puts_performStore (inner : StoreCommand) :
    machine.Puts (.store inner) (machine.performStore inner) := by
  cases inner with
  | ensureOpen =>
      rw [performStore]
      split <;> exact puts_nothing rfl
  | _ => exact puts_nothing rfl

theorem puts_performRequest (inner : RequestCommand) :
    machine.Puts (.request inner) (machine.performRequest inner) := by
  have resolves (id : Nat) : Light (Activity.perform (.request inner)).weight [.resolve id] :=
    light_singleton rfl (lighter_of_rank (by decide : 4 < 6) _ _)
  cases inner with
  | submit name? table request =>
      cases name? with
      | none => exact puts_light (resolves _) rfl
      | some name => exact puts_nothing rfl
  | take name =>
      rw [performRequest]
      split <;> exact puts_nothing rfl
  | resolve name =>
      rw [performRequest]
      split
      · exact puts_nothing rfl
      · exact puts_light (resolves _) rfl

theorem puts_performExecutor (inner : ExecutorCommand Command) :
    machine.Puts (.executor inner) (machine.performExecutor inner) := by
  cases inner <;> exact puts_nothing rfl

theorem puts_performWatch (inner : WatchCommand Command) :
    machine.Puts (.watch inner) (machine.performWatch inner) := by
  cases inner with
  | create name table reaction => exact puts_nothing rfl
  | stop name =>
      rw [performWatch]
      split <;> exact puts_nothing rfl

theorem puts_withBinding {name : String} {go : Nat → Binding → Machine}
    (goes : ∀ id binding, machine.Puts command (go id binding)) :
    machine.Puts command (machine.withBinding name go) := by
  rw [withBinding]
  split
  · exact goes _ _
  · exact puts_nothing rfl

theorem puts_performBinding (inner : BindingCommand Command) :
    machine.Puts (.binding inner) (machine.performBinding inner) := by
  let allocated := machine.become machine.engine.allocate.2
  suffices puts : allocated.Puts (.binding inner)
      (allocated.performIssued (inner.issued machine.engine.nextId)) from puts
  cases inner with
  | create name table descriptor => exact puts_nothing rfl
  | fetch name table? descriptor? reaction =>
      apply puts_withBinding
      intro id binding
      refine puts_light (light_calls_at_once ?_ .nothing (.object id)) rfl
      rw [List.forall_mem_map]
      refine fun result _ => ⟨_, _, rfl, ?_⟩
      simp only [Command.binding.sizeOf_spec, BindingCommand.fetch.sizeOf_spec]
      omega
  | _ => exact puts_withBinding fun _ _ => puts_nothing rfl

theorem puts_withCache {name : String} {go : Nat → ItemCache → Machine}
    (goes : ∀ id cache, machine.Puts command (go id cache)) :
    machine.Puts command (machine.withCache name go) := by
  rw [withCache]
  split
  · exact goes _ _
  · exact puts_nothing rfl

theorem puts_performCache (inner : CacheCommand Command) :
    machine.Puts (.cache inner) (machine.performCache inner) := by
  cases inner with
  | create name table idField? => exact puts_nothing rfl
  | request name item reaction? =>
      apply puts_withCache
      intro id cache
      dsimp only
      split
      · refine puts_light (light_calls_at_once ?_ (.record (cache.items.find? item)) (.object id)) rfl
        rw [List.forall_mem_map]
        intro callback member
        refine ⟨_, _, rfl, ?_⟩
        cases reaction? with
        | none => contradiction
        | some reaction =>
            rw [List.mem_singleton.mp member]
            simp only [Command.cache.sizeOf_spec, CacheCommand.request.sizeOf_spec,
              Option.some.sizeOf_spec]
            omega
      · exact puts_nothing rfl
  | _ => exact puts_withCache fun _ _ => puts_nothing rfl

theorem puts_perform (machine : Machine) (command : Command) :
    machine.Puts command (machine.perform command) := by
  cases command with
  | feed inner => exact puts_performFeed inner
  | registry inner => exact puts_performRegistry inner
  | queue inner =>
      cases inner with
      | push routine => exact puts_nothing rfl
      | drain =>
          have drains : Light (Activity.perform (.queue .drain)).weight [.drain 0 none] :=
            light_singleton rfl (lighter_of_rank (Nat.zero_lt_succ 5) _ _)
          exact puts_light drains rfl
  | store inner => exact puts_performStore inner
  | clock inner => cases inner <;> exact puts_nothing rfl
  | request inner => exact puts_performRequest inner
  | executor inner => exact puts_performExecutor inner
  | watch inner => exact puts_performWatch inner
  | binding inner => exact puts_performBinding inner
  | cache inner => exact puts_performCache inner
  | run => exact puts_light (light_running (by decide) _) rfl
  | inquire inquiry => exact puts_nothing rfl
  | drop name => exact puts_nothing rfl

/-- A command that puts nothing into the outbox leaves as many rows as there were. -/
theorem rows_performStore (sound : machine.engine.store.Sound) (inner : StoreCommand)
    (outbox : (machine.performStore inner).engine.store.outbox = machine.engine.store.outbox) :
    (machine.performStore inner).rows = machine.rows := by
  cases inner with
  | ensureOpen =>
      rw [performStore]
      split
      · next opened => exact Store.open?_recordCount sound opened
      · rfl
  | close => rfl
  | block reason? => rfl
  | transact mode table steps =>
      have store : (machine.performStore (.transact mode table steps)).engine.store =
          (machine.engine.store.performAll mode table steps).2 := by
        simp only [performStore, conclude, Engine.transactDirectly, Engine.store_elapse]
      rw [store] at outbox
      rw [rows, store]
      rcases Store.transaction_rows sound (fun error => ⟨error, []⟩) mode table
          (OperationStep.performAll_reaches steps []) with
        ⟨_, same⟩ | ⟨_, space, _, _, _, committed, _⟩
      · exact same
      · rw [Store.performAll, committed] at outbox
        simp at outbox

theorem rows_perform (sound : machine.engine.store.Sound) (command : Command)
    (outbox : (machine.perform command).engine.store.outbox = machine.engine.store.outbox) :
    (machine.perform command).rows = machine.rows := by
  cases reaches : command.reachesStore with
  | false => rw [rows, rows, store_perform reaches]
  | true =>
      cases command with
      | store inner => exact rows_performStore sound inner outbox
      | feed inner =>
          cases inner with
          | publish batch => rfl
          | _ => contradiction
      | _ => contradiction

/--
A command queues nothing: it puts nothing into the queue or the outbox, and alerts no
watchers, which would have executions queued.
-/
structure QueuesNothing (machine : Machine) (command : Command) : Prop where
  queue : (machine.perform command).engine.queue = machine.engine.queue
  outbox : (machine.perform command).engine.store.outbox = machine.engine.store.outbox
  quiet : command.dispatches = false

theorem QueuesNothing.yields (nothing : machine.QueuesNothing command)
    (sound : machine.engine.store.Sound) :
    Yields (Activity.perform command).weight machine (machine.perform command) := by
  rcases machine.puts_perform command with ⟨new, agenda, _, light⟩
  have light := light nothing.quiet
  have queue : (machine.perform command).engine.queue = machine.engine.queue ++ [] := by
    rw [nothing.queue, List.append_nil]
  exact .intro (gains_of_rows agenda queue nothing.outbox light.lighter (List.forall_mem_nil _)
    (rows_perform sound command nothing.outbox)) light.loose

/-! ## Other activities -/

theorem light_script (reaction : Reaction Command) :
    Light (toLex (6, sizeOf reaction)) reaction.script := by
  apply light_of_isPlain
  intro activity member
  rcases List.mem_flatMap.mp member with ⟨command, among, listed⟩
  rcases List.mem_cons.mp listed with rfl | noted
  · exact ⟨rfl, lighter_of_size 6 (reaction.sizeOf_command among)⟩
  · rw [List.mem_singleton.mp noted]
    exact ⟨rfl, lighter_of_rank (Nat.zero_lt_succ 5) _ _⟩

theorem yields_call (machine : Machine) (callback : Callback) (notice : Notice) :
    Yields (Activity.call callback notice).weight machine (machine.call callback notice) := by
  simp only [call]
  split
  · exact yields_light (light_script callback.reaction) rfl rfl rfl
  · exact yields_nothing rfl rfl rfl

theorem yields_flush (machine : Machine) : Yields Activity.flush.weight machine machine.flush := by
  rw [flush]
  split
  · exact yields_nothing rfl rfl rfl
  · have delivers : Light Activity.flush.weight [.deliver 0] :=
      light_singleton rfl (lighter_of_rank Nat.one_lt_two _ _)
    exact yields_light delivers rfl rfl rfl

theorem yields_tell (machine : Machine) (listener : Listener) (batch : List Change) :
    Yields (Activity.tell listener batch).weight machine (machine.tell listener batch) := by
  cases listener with
  | registry generation =>
      rw [tell]
      split
      · have dispatches : Light (Activity.tell (.registry generation) batch).weight
            [.dispatch generation batch] :=
          light_singleton rfl (lighter_of_rank (by decide : 12 < 13) _ _)
        exact yields_light (dispatches.append (light_letGo _ (Nat.zero_lt_succ 12) _)) rfl rfl rfl
      · exact yields_nothing rfl rfl rfl
  | callback callback =>
      have calls : Light (Activity.tell (.callback callback) batch).weight
          [.call callback (.changes batch)] :=
        light_singleton rfl (lighter_of_rank (by decide : 6 < 13) _ _)
      exact yields_light calls rfl rfl rfl

theorem yields_dispatch (machine : Machine) (generation : Nat) (batch : List Change) :
    Yields (Activity.dispatch generation batch).weight machine
      (machine.dispatch generation batch) := by
  refine yields_light (light_of_isPlain ?_) rfl rfl rfl
  rw [List.forall_mem_map]
  exact fun table _ => ⟨rfl, lighter_of_rank (by decide : 11 < 12) _ _⟩

theorem yields_visit (machine : Machine) (generation : Nat) (table : String) :
    Yields (Activity.visit generation table).weight machine (machine.visit generation table) := by
  rw [visit]
  split
  · refine yields_light (light_of_isPlain ?_) rfl rfl rfl
    rw [List.forall_mem_map]
    exact fun watcher _ => ⟨rfl, lighter_of_rank (by decide : 10 < 11) _ _⟩
  · exact yields_nothing rfl rfl rfl

/-- An alert has units of bindings and caches queued at most. -/
theorem yields_requests {after : Engine} {top : Weight} (rank : ∀ size, toLex (9, size) < top)
    (requests : ∃ added, after.queue = machine.engine.queue ++ added ∧ ∀ task ∈ added, task.rank = 9)
    (store : after.store = machine.engine.store) :
    Yields top machine (machine.become after) := by
  rcases requests with ⟨added, queue, ranks⟩
  have gains : Gains top machine (machine.become after) [] added [] := by
    refine gains_of_rows rfl queue (congrArg Store.outbox store) (List.forall_mem_nil _) ?_ ?_
    · intro task member
      rw [Task.weight, ranks task member]
      exact rank _
    · exact congrArg (fun store : Store => store.tables.recordCount) store
  exact .intro gains loose_nil

theorem yields_alert (machine : Machine) (watcher : Watcher) (table : String) :
    Yields (Activity.alert watcher table).weight machine (machine.alert watcher table) := by
  have room (size : Nat) : (toLex (9, size) : Weight) < (Activity.alert watcher table).weight :=
    lighter_of_rank (by decide : 9 < 10) _ _
  cases watcher with
  | binding id =>
      exact yields_requests room (machine.engine.queue_requestBinding id)
        (machine.engine.store_requestBinding id)
  | cache id =>
      exact yields_requests room (machine.engine.queue_requestCache id)
        (machine.engine.store_requestCache id)
  | callback callback =>
      have calls : Light (Activity.alert (.callback callback) table).weight
          [.call callback (.table table)] :=
        light_singleton rfl (lighter_of_rank (by decide : 6 < 10) _ _)
      exact yields_light calls rfl rfl rfl

theorem yields_refresh (machine : Machine) (id : Nat) (result : QueryResult) :
    Yields (Activity.refresh id result).weight machine (machine.refresh id result) := by
  have serves : Light (Activity.refresh id result).weight [.serve id] :=
    light_singleton rfl (lighter_of_rank (by decide : 7 < 8) _ _)
  rw [refresh]
  split
  · exact yields_nothing rfl rfl rfl
  · next binding _ =>
      split
      · exact yields_light serves rfl rfl rfl
      · have calls : Light (Activity.refresh id result).weight
            (binding.consumers.all.map (Activity.call · (.result (some result)))) :=
          light_calls (by decide : 6 < 8) 0 _
        exact yields_light (calls.append serves) rfl rfl rfl

theorem yields_serve (machine : Machine) (id : Nat) :
    Yields (Activity.serve id).weight machine (machine.serve id) := by
  rw [serve]
  split
  · exact yields_nothing rfl rfl rfl
  · exact yields_light (light_calls (by decide : 6 < 7) 0 _) rfl rfl rfl

theorem yields_refill (machine : Machine) (id : Nat) (records : List Record) :
    Yields (Activity.refill id records).weight machine (machine.refill id records) := by
  rw [refill]
  split
  · exact yields_nothing rfl rfl rfl
  · refine yields_light (light_of_isPlain ?_) rfl rfl rfl
    rw [List.forall_mem_append, List.forall_mem_map, List.forall_mem_singleton]
    exact ⟨fun waiting _ => ⟨rfl, lighter_of_rank (by decide : 7 < 8) _ _⟩,
      rfl, lighter_of_rank (by decide : 7 < 8) _ _⟩

theorem yields_serveItem (machine : Machine) (id : Nat) (item : Value) (callback : Callback) :
    Yields (Activity.serveItem id item callback).weight machine
      (machine.serveItem id item callback) := by
  rw [serveItem]
  split
  · exact yields_nothing rfl rfl rfl
  · next cache _ =>
      have calls : Light (Activity.serveItem id item callback).weight
          [.call callback (.item (cache.items.find? item))] :=
        light_singleton rfl (lighter_of_rank (by decide : 6 < 7) _ _)
      exact yields_light calls rfl rfl rfl

theorem yields_spread (machine : Machine) (id : Nat) :
    Yields (Activity.spread id).weight machine (machine.spread id) := by
  rw [spread]
  split
  · exact yields_nothing rfl rfl rfl
  · exact yields_light (light_calls (by decide : 6 < 7) 0 _) rfl rfl rfl

end Machine

end LiveTable
