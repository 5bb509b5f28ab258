import LiveTable.Proofs.Engine.Caching
import LiveTable.Proofs.Engine.Progress
import LiveTable.Proofs.Engine.Registry

/-!
# Subscriptions among other watchers

A subscription is a callback that watches a table under a number of its own.  The registry
lists it once, under its table, as long as it is there, and nothing else of an engine ever
calls it: bindings, caches and units have numbers and callbacks of their own.

`Engine.Enrolled` says so for all numbers that were given out to subscriptions, and already
for those that were not given out yet, so that a new subscription finds its place free.
Every operation that is about something else respects that, whatever it does to the
watchers of bindings and caches.
-/

set_option autoImplicit false

namespace LiveTable

/-- Whether a watcher is the callback of a number. -/
def Watcher.calls (id : Nat) : Watcher → Bool
  | .callback target => target.id == id
  | _ => false

/-! ## Listing one callback -/

namespace Registry

/-- The callback of a number is listed once, under its table, or nowhere if it has none. -/
structure Lists (registry : Registry Watcher) (id : Nat) (table? : Option String) : Prop where
  table : registry.tableOf? id = table?
  once (table : String) :
    (registry.entriesOf table).countP (·.2.calls id) = if table? = some table then 1 else 0
  own {table : String} {entry : Nat × Watcher} (listed : entry ∈ registry.entriesOf table)
    (calls : entry.2.calls id) : entry.1 = id

theorem lists_empty (id : Nat) : Lists .empty id none where
  table := rfl
  once _ := rfl
  own listed := absurd listed List.not_mem_nil

variable {registry : Registry Watcher} {id other : Nat} {table? : Option String}

/-- Whoever else leaves, the callback is listed as before. -/
theorem Lists.remove (lists : registry.Lists id table?) (different : other ≠ id) :
    (registry.remove other).Lists id table? where
  table := by
    rw [tableOf?_remove, if_neg different.symm]
    exact lists.table
  once table := by
    rw [← lists.once table, entriesOf_remove]
    split
    · rw [List.countP_filter]
      apply List.countP_congr
      intro entry listed
      rw [Bool.and_eq_true]
      refine ⟨And.left, fun calls => ⟨calls, ?_⟩⟩
      rw [lists.own listed calls]
      exact bne_iff_ne.mpr different.symm
    · rfl
  own listed := lists.own (of_mem_entriesOf_remove listed)

/-- Once it has left, the callback is listed nowhere. -/
theorem Lists.remove_self (lists : registry.Lists id table?) :
    (registry.remove id).Lists id none where
  table := by rw [tableOf?_remove, if_pos rfl]
  once table := by
    rw [entriesOf_remove, lists.table, if_neg (Option.some_ne_none table).symm]
    split
    · rw [List.countP_eq_zero]
      intro entry kept calls
      rcases List.mem_filter.mp kept with ⟨listed, stays⟩
      exact bne_iff_ne.mp stays (lists.own listed calls)
    · next elsewhere => rw [lists.once table, if_neg elsewhere]
  own listed := lists.own (of_mem_entriesOf_remove listed)

/-- Whoever else comes, the callback is listed as before. -/
theorem Lists.watch (lists : registry.Lists id table?) (different : other ≠ id)
    (table : String) {watcher : Watcher} (silent : watcher.calls id = false) :
    (registry.watch other table watcher).Lists id table? where
  table := by
    rw [tableOf?_watch, if_neg different.symm]
    exact lists.table
  once sought := by
    rw [← (lists.remove different).once sought, entriesOf_watch]
    split
    · next same => simp [same, silent]
    · rfl
  own listed calls := by
    rcases of_mem_entriesOf_watch listed with rfl | before
    · rw [silent] at calls
      contradiction
    · exact lists.own before calls

/-- A callback that comes is listed under the table that it watches, and no longer elsewhere. -/
theorem Lists.watch_self (lists : registry.Lists id table?) (table : String) {watcher : Watcher}
    (calls : watcher.calls id) :
    (registry.watch id table watcher).Lists id (some table) where
  table := by rw [tableOf?_watch, if_pos rfl]
  once sought := by
    have nowhere := lists.remove_self.once sought
    rw [if_neg (Option.some_ne_none sought).symm] at nowhere
    rw [entriesOf_watch]
    by_cases same : sought = table
    · rw [← same, if_pos rfl, if_pos rfl, List.countP_append, nowhere]
      simp [calls]
    · rw [if_neg same, if_neg fun other => same (Option.some.inj other).symm, nowhere]
  own listed called := by
    rcases of_mem_entriesOf_watch listed with rfl | before
    · rfl
    · exact lists.own before called

end Registry

/-! ## What else calls callbacks -/

/-- The callbacks that a binding calls. -/
def Binding.callbacks (binding : Binding) : List Callback :=
  binding.consumers.all ++ binding.waiting

/-- The callbacks that a cache calls. -/
def ItemCache.callbacks (cache : ItemCache) : List Callback :=
  cache.consumers.all ++ cache.waiting.map Prod.snd

/-- The callbacks that a job calls. -/
def Job.callbacks : Job → List Callback
  | .callback _ target _ => [target]
  | _ => []

/-- The callbacks that a task calls by itself. -/
def Task.callbacks : Task → List Callback
  | .unit _ job _ => job.callbacks
  | .routine _ => []

namespace Engine

variable (own : Nat → Prop) (table? : Nat → Option String)

/-- A number that was given out, and to no subscription. -/
def Foreign (engine : Engine) (id : Nat) : Prop :=
  id < engine.nextId ∧ ¬ own id

/--
The registry lists the callbacks of subscriptions as the tables that they watch say, and
nothing else calls them; only the present registry listens to the feed.
-/
structure Enrolled (engine : Engine) : Prop where
  numbered (id : Nat) : own id → id < engine.nextId
  lists {id : Nat} (subscribed : ¬ engine.Foreign own id) : engine.registry.Lists id (table? id)
  attached (id : Nat) : (table? id).isSome → engine.attachment?.isSome
  listeners : engine.listeners.all =
    engine.attachment?.toList.map fun _ => Listener.registry engine.generation
  former (generation : Nat) : engine.former.get? generation = none
  bindings {id : Nat} {binding : Binding} (held : engine.bindings.get? id = some binding) :
    engine.Foreign own id ∧ ∀ callback ∈ binding.callbacks, engine.Foreign own callback.id
  caches {id : Nat} {cache : ItemCache} (held : engine.caches.get? id = some cache) :
    engine.Foreign own id ∧ ∀ callback ∈ cache.callbacks, engine.Foreign own callback.id
  queue : ∀ task ∈ engine.queue, ∀ callback ∈ task.callbacks, engine.Foreign own callback.id

/-- An engine with its subscriptions enrolled keeps them so, and takes no number back. -/
def Respects (before after : Engine) : Prop :=
  before.Enrolled own table? → after.Enrolled own table? ∧ before.nextId ≤ after.nextId

variable {own table?} {engine : Engine}

/-- Nothing is enrolled with a new engine. -/
theorem create_enrolled (name : String) (schema : StoreSchema) (config : Config) :
    (create name schema config).Enrolled (fun _ => False) (fun _ => none) where
  numbered _ := False.elim
  lists _ := Registry.lists_empty _
  attached _ some := absurd some Bool.false_ne_true
  listeners := rfl
  former _ := rfl
  bindings held := nomatch held
  caches held := nomatch held
  queue _ member := absurd member List.not_mem_nil

theorem Respects.trans
    {first middle last : Engine} (early : Respects own table? first middle)
    (late : Respects own table? middle last) :
    Respects own table? first last := by
  intro enrolled
  rcases early enrolled with ⟨enrolledMiddle, lower⟩
  rcases late enrolledMiddle with ⟨enrolledLast, upper⟩
  exact ⟨enrolledLast, Nat.le_trans lower upper⟩

theorem respects_refl (engine : Engine) : Respects own table? engine engine :=
  fun enrolled => ⟨enrolled, Nat.le_refl _⟩

/-- What gives out no number respects subscriptions if they stay enrolled. -/
theorem Respects.of_enrolled
    {after : Engine} (enrolled : engine.Enrolled own table? → after.Enrolled own table?)
    (nextId : after.nextId = engine.nextId) :
    Respects own table? engine after :=
  fun before => ⟨enrolled before, Nat.le_of_eq nextId.symm⟩

/-! ## Numbers and the queue -/

theorem Foreign.mono
    {id nextId : Nat} (foreign : engine.Foreign own id) (larger : engine.nextId ≤ nextId) :
    ({ engine with nextId := nextId } : Engine).Foreign own id :=
  ⟨Nat.lt_of_lt_of_le foreign.1 larger, foreign.2⟩

theorem Enrolled.grow (enrolled : engine.Enrolled own table?) {nextId : Nat}
    (larger : engine.nextId ≤ nextId) :
    ({ engine with nextId := nextId } : Engine).Enrolled own table? where
  numbered id subscribed := Nat.lt_of_lt_of_le (enrolled.numbered id subscribed) larger
  lists subscribed := enrolled.lists fun foreign => subscribed (foreign.mono larger)
  attached := enrolled.attached
  listeners := enrolled.listeners
  former := enrolled.former
  bindings held :=
    ⟨(enrolled.bindings held).1.mono larger,
      fun callback member => ((enrolled.bindings held).2 callback member).mono larger⟩
  caches held :=
    ⟨(enrolled.caches held).1.mono larger,
      fun callback member => ((enrolled.caches held).2 callback member).mono larger⟩
  queue task waits callback member := (enrolled.queue task waits callback member).mono larger

theorem respects_allocate (engine : Engine) : Respects own table? engine engine.allocate.2 :=
  fun enrolled => ⟨enrolled.grow (Nat.le_succ _), Nat.le_succ _⟩

/-- A number that was just given out is no subscription's. -/
theorem foreign_allocate (enrolled : engine.Enrolled own table?) :
    engine.allocate.2.Foreign own engine.nextId :=
  ⟨Nat.lt_succ_self _, fun subscribed => absurd (enrolled.numbered _ subscribed) (Nat.lt_irrefl _)⟩

theorem respects_register (engine : Engine) (reaction : Reaction Command) :
    Respects own table? engine (engine.register reaction).2 :=
  respects_allocate engine

theorem respects_register? (engine : Engine) (reaction? : Option (Reaction Command)) :
    Respects own table? engine (engine.register? reaction?).2 := by
  cases reaction? with
  | none => exact respects_refl engine
  | some reaction => exact respects_register engine reaction

theorem foreign_register? (enrolled : engine.Enrolled own table?)
    (reaction? : Option (Reaction Command)) :
    ∀ callback ∈ (engine.register? reaction?).1,
      (engine.register? reaction?).2.Foreign own callback.id := by
  cases reaction? with
  | none => exact nofun
  | some reaction =>
      intro callback registered
      rw [← Option.some.inj registered]
      exact foreign_allocate enrolled

theorem respects_rename (engine : Engine) (name : String) (change : Handles → Handles) :
    Respects own table? engine (engine.rename name change) :=
  .of_enrolled (fun enrolled => { enrolled with }) rfl

theorem respects_hold (engine : Engine) (held : Held) :
    Respects own table? engine (engine.hold held) :=
  .of_enrolled (fun enrolled => { enrolled with }) rfl

theorem respects_enqueue (engine : Engine) {task : Task}
    (foreign : engine.Enrolled own table? →
      ∀ callback ∈ task.callbacks, engine.Foreign own callback.id) :
    Respects own table? engine (engine.enqueue task) := by
  refine .of_enrolled (fun enrolled => ?_) rfl
  refine { enrolled with queue := ?_ }
  intro other waits
  rcases List.mem_append.mp waits with before | new
  · exact enrolled.queue other before
  · rw [List.mem_singleton.mp new]
    exact foreign enrolled

theorem respects_schedule (engine : Engine) (executor : Nat) {job : Job}
    (foreign : engine.Enrolled own table? →
      ∀ callback ∈ job.callbacks, engine.Foreign own callback.id) :
    Respects own table? engine (engine.schedule executor job).2 := by
  rw [schedule]
  split
  · exact respects_refl engine
  · have enqueued : Respects own table? engine
        (engine.enqueue (.unit executor job engine.clock.number)) :=
      respects_enqueue engine foreign
    exact enqueued.trans (.of_enrolled (fun enrolled => { enrolled with }) rfl)

theorem respects_requestBinding (engine : Engine) (id : Nat) :
    Respects own table? engine (engine.requestBinding id).2 := by
  rw [requestBinding]
  split
  · split
    · exact respects_refl engine
    · exact respects_schedule engine id fun _ => List.forall_mem_nil _
  · exact respects_refl engine

theorem respects_requestCache (engine : Engine) (id : Nat) :
    Respects own table? engine (engine.requestCache id).2 := by
  rw [requestCache]
  split
  · split
    · exact respects_refl engine
    · exact respects_schedule engine id fun _ => List.forall_mem_nil _
  · exact respects_refl engine

theorem respects_executorOf (engine : Engine) (name? : Option String) :
    Respects own table? engine (engine.executorOf name?).2 := by
  rw [executorOf]
  split
  · exact respects_refl engine
  · exact respects_allocate engine

theorem respects_submit (engine : Engine) (table : String) (request : Request) :
    Respects own table? engine (engine.submit table request).2 :=
  (respects_allocate engine).trans
    (respects_schedule _ engine.nextId fun _ => List.forall_mem_nil _)

theorem respects_takeOutcome (engine : Engine) (id : Nat) :
    Respects own table? engine (engine.takeOutcome id).2 :=
  .of_enrolled (fun enrolled => { enrolled with }) rfl

/-- A unit that runs for an executor, which is freed, does nothing to subscriptions. -/
theorem respects_runUnit (engine : Engine) (unit : WorkUnit) (clock executor : Nat) :
    Respects own table? engine ((engine.runUnit unit clock).2.release executor) := by
  rcases (engine.runUnit_eq unit clock).2 with ⟨monitor, now, after⟩
  rw [after]
  exact .of_enrolled (fun enrolled => { enrolled with }) rfl

/-! ## Watching and leaving -/

theorem respects_attach (engine : Engine) : Respects own table? engine engine.attach := by
  rw [attach]
  split
  · exact respects_refl engine
  · next detached =>
      refine .of_enrolled (fun enrolled => ?_) rfl
      refine { enrolled with attached := fun _ _ => rfl, listeners := ?_ }
      have nobody := enrolled.listeners
      rw [detached] at nobody
      simp only [Subscribers.all, Option.toList, List.map_nil, List.map_eq_nil_iff] at nobody
      simp [Subscribers.add, Subscribers.all, nobody]

theorem respects_watch (engine : Engine) {id : Nat} (table : String) {watcher : Watcher}
    (foreign : engine.Enrolled own table? → engine.Foreign own id)
    (silent : ∀ sought, watcher.calls sought = false) :
    Respects own table? engine (engine.watch id table watcher) := by
  intro enrolled
  rcases respects_attach engine enrolled with ⟨attached, larger⟩
  refine ⟨{ attached with lists := ?_ }, larger⟩
  intro sought subscribed
  have nextId : engine.attach.nextId = engine.nextId := engine.attach_frame.2.2.2.2.2.2.2.2
  have foreignAttached : engine.attach.Foreign own id := by
    rw [Foreign, nextId]
    exact foreign enrolled
  apply (attached.lists subscribed).watch ?_ table (silent sought)
  rintro rfl
  exact subscribed foreignAttached

theorem respects_leave (engine : Engine) {id : Nat}
    (foreign : engine.Enrolled own table? → engine.Foreign own id) :
    Respects own table? engine (engine.leave id) := by
  refine .of_enrolled (fun enrolled => ?_) rfl
  refine { enrolled with lists := ?_ }
  intro sought subscribed
  apply (enrolled.lists subscribed).remove
  rintro rfl
  exact subscribed (foreign enrolled)

/-! ## Bindings and caches -/

theorem respects_modifyBinding (engine : Engine) (id : Nat) {change : Binding → Binding}
    (foreign : engine.Enrolled own table? → ∀ binding,
      engine.bindings.get? id = some binding →
      (∀ callback ∈ binding.callbacks, engine.Foreign own callback.id) →
      ∀ callback ∈ (change binding).callbacks, engine.Foreign own callback.id) :
    Respects own table? engine (engine.modifyBinding id change) := by
  refine .of_enrolled (fun enrolled => ?_) rfl
  refine { enrolled with bindings := ?_ }
  intro sought binding held
  rcases of_get?_modifyBinding held with ⟨former, heldFormer, ⟨rfl, _⟩ | ⟨rfl, rfl⟩⟩
  · exact enrolled.bindings heldFormer
  · have before := enrolled.bindings heldFormer
    exact ⟨before.1, foreign enrolled former heldFormer before.2⟩

/-- A change that gives a binding no further callbacks. -/
theorem respects_changeBinding (engine : Engine) (id : Nat) {change : Binding → Binding}
    (fewer : ∀ binding, ∀ callback ∈ (change binding).callbacks, callback ∈ binding.callbacks) :
    Respects own table? engine (engine.modifyBinding id change) :=
  respects_modifyBinding engine id fun _ binding _ before callback member =>
    before callback (fewer binding callback member)

theorem respects_modifyCache (engine : Engine) (id : Nat) {change : ItemCache → ItemCache}
    (foreign : engine.Enrolled own table? → ∀ cache, engine.caches.get? id = some cache →
      (∀ callback ∈ cache.callbacks, engine.Foreign own callback.id) →
      ∀ callback ∈ (change cache).callbacks, engine.Foreign own callback.id) :
    Respects own table? engine (engine.modifyCache id change) := by
  refine .of_enrolled (fun enrolled => ?_) rfl
  refine { enrolled with caches := ?_ }
  intro sought cache held
  rcases get?_modifyCache_cases held with ⟨former, heldFormer, ⟨rfl, _⟩ | ⟨rfl, rfl⟩⟩
  · exact enrolled.caches heldFormer
  · have before := enrolled.caches heldFormer
    exact ⟨before.1, foreign enrolled former heldFormer before.2⟩

/-- A change that gives a cache no further callbacks. -/
theorem respects_changeCache (engine : Engine) (id : Nat) {change : ItemCache → ItemCache}
    (fewer : ∀ cache, ∀ callback ∈ (change cache).callbacks, callback ∈ cache.callbacks) :
    Respects own table? engine (engine.modifyCache id change) :=
  respects_modifyCache engine id fun _ cache _ before callback member =>
    before callback (fewer cache callback member)

theorem respects_closeBinding (engine : Engine) (id : Nat) :
    Respects own table? engine (engine.closeBinding id) := by
  rw [closeBinding]
  split
  · exact respects_refl engine
  · next binding held =>
      split
      · exact respects_refl engine
      · refine (respects_leave engine fun enrolled => (enrolled.bindings held).1).trans ?_
        exact respects_changeBinding _ id fun _ => List.forall_mem_nil _

theorem respects_closeCache (engine : Engine) (id : Nat) :
    Respects own table? engine (engine.closeCache id) := by
  rw [closeCache]
  split
  · exact respects_refl engine
  · next cache held =>
      split
      · exact respects_refl engine
      · refine (respects_leave engine fun enrolled => (enrolled.caches held).1).trans ?_
        exact respects_changeCache _ id fun _ => List.forall_mem_nil _

theorem respects_closeObject (engine : Engine) (id : Nat) :
    Respects own table? engine (engine.closeObject id) :=
  (respects_closeBinding engine id).trans (respects_closeCache _ id)

theorem respects_discard (engine : Engine) (id : Nat) :
    Respects own table? engine (engine.discard id) := by
  rw [discard]
  split
  · exact .of_enrolled (fun enrolled => { enrolled with }) rfl
  · exact respects_closeObject engine id

/-- Giving an object up, if a name stood for it. -/
theorem respects_discard? (engine : Engine) (former? : Option Nat) :
    Respects own table? engine (former?.elim engine engine.discard) := by
  cases former? with
  | none => exact respects_refl engine
  | some former => exact respects_discard engine former

theorem respects_settleGivenUp (engine : Engine) (held : Held) :
    Respects own table? engine (engine.settleGivenUp held) := by
  cases held with
  | registry generation =>
      intro enrolled
      rw [settleGivenUp, enrolled.former generation]
      exact respects_refl engine enrolled
  | object id =>
      rw [settleGivenUp]
      split
      · refine (respects_closeObject engine id).trans ?_
        exact .of_enrolled (fun enrolled => { enrolled with }) rfl
      · exact respects_refl engine

theorem respects_letGo (engine : Engine) (held : Held) :
    Respects own table? engine (engine.letGo held) := by
  have released : Respects own table? engine { engine with holds := engine.holds.erase held } :=
    .of_enrolled (fun enrolled => { enrolled with }) rfl
  rw [letGo]
  split
  · exact released
  · exact released.trans (respects_settleGivenUp _ held)

/-! ## Objects and what they ask -/

theorem respects_createBinding (engine : Engine) (table : String) (descriptor : Descriptor) :
    Respects own table? engine (engine.createBinding table descriptor).2 := by
  let created := engine.withBinding (.create table descriptor)
  have watched : Respects own table? engine
      (created.watch engine.nextId table (.binding engine.nextId)) := by
    intro enrolled
    have foreign : created.Foreign own engine.nextId := foreign_allocate enrolled
    have allocated := enrolled.grow (Nat.le_succ _)
    have enrolledCreated : created.Enrolled own table? := by
      refine { allocated with bindings := ?_ }
      intro id binding held
      change (engine.bindings.insert engine.nextId _).get? id = some binding at held
      rw [get?_insertBinding] at held
      split at held
      · next same =>
          rcases Option.some.inj held with rfl
          rw [same]
          exact ⟨foreign, List.forall_mem_nil _⟩
      · exact allocated.bindings held
    have watches : Respects own table? created
        (created.watch engine.nextId table (.binding engine.nextId)) :=
      respects_watch created table (fun _ => foreign) fun _ => rfl
    rcases watches enrolledCreated with ⟨enrolledAfter, larger⟩
    exact ⟨enrolledAfter, Nat.le_trans (Nat.le_succ _) larger⟩
  exact watched.trans (respects_requestBinding _ engine.nextId)

theorem respects_setDescriptor (engine : Engine) (id : Nat) (binding : Binding)
    (descriptor : Descriptor) :
    Respects own table? engine (engine.setDescriptor id binding descriptor).2 := by
  rw [setDescriptor]
  split
  · exact respects_refl engine
  · have changed : Respects own table? engine
        (engine.modifyBinding id fun binding => { binding with descriptor := descriptor }) :=
      respects_changeBinding engine id fun _ _ member => member
    exact changed.trans (respects_requestBinding _ id)

theorem respects_setTable (engine : Engine) {id : Nat} (binding : Binding)
    (there : (engine.bindings.get? id).isSome) (table : String) :
    Respects own table? engine (engine.setTable id binding table).2 := by
  rw [setTable]
  split
  · exact respects_refl engine
  · let moved := engine.modifyBinding id fun binding => { binding with table := table }
    have changed : Respects own table? engine moved :=
      respects_changeBinding engine id fun _ _ member => member
    dsimp only
    split
    · exact changed.trans (respects_requestBinding _ id)
    · have watches : Respects own table? moved (moved.watch id table (.binding id)) := by
        refine respects_watch moved table (fun enrolled => ?_) fun _ => rfl
        rcases Option.isSome_iff_exists.mp there with ⟨former, held⟩
        have heldMoved : moved.bindings.get? id = some { former with table := table } := by
          rw [get?_modifyBinding, if_pos rfl, held]
          rfl
        exact (enrolled.bindings heldMoved).1
      exact (changed.trans watches).trans (respects_requestBinding _ id)

theorem respects_fetch (engine : Engine) {id : Nat} {binding : Binding}
    (held : engine.bindings.get? id = some binding) (target? : Option String)
    (descriptor? : Option Descriptor) {callback : Callback}
    (foreign : engine.Enrolled own table? → engine.Foreign own callback.id) :
    Respects own table? engine (engine.fetch id binding target? descriptor? callback).2 := by
  rw [fetch]
  dsimp only
  split
  · exact respects_refl engine
  · let change : Binding → Binding := fun former =>
      { former with
        waiting := former.waiting ++ [callback]
        descriptor := (descriptor?.filter (!binding.descriptor.same ·)).getD former.descriptor }
    have waits : Respects own table? engine (engine.modifyBinding id change) := by
      apply respects_modifyBinding
      intro enrolled former _ before other member
      simp only [change, Binding.callbacks, ← List.append_assoc] at member
      rcases List.mem_append.mp member with earlier | new
      · exact before other earlier
      · rw [List.mem_singleton.mp new]
        exact foreign enrolled
    split
    · refine waits.trans (respects_setTable _ binding ?_ _)
      rw [get?_modifyBinding, if_pos rfl, held]
      rfl
    · exact waits.trans (respects_requestBinding _ id)

theorem respects_createCache (engine : Engine) (table idField : String) :
    Respects own table? engine (engine.createCache table idField).2 := by
  let created : Engine :=
    { engine.allocate.2 with
      caches := engine.caches.insert engine.nextId (.create table idField) }
  intro enrolled
  have foreign : created.Foreign own engine.nextId := foreign_allocate enrolled
  have allocated := enrolled.grow (Nat.le_succ _)
  have enrolledCreated : created.Enrolled own table? := by
    refine { allocated with caches := ?_ }
    intro id cache held
    change (engine.caches.insert engine.nextId _).get? id = some cache at held
    rw [OrderedMap.get?_insert] at held
    simp only [Std.compare_eq_iff_eq] at held
    split at held
    · next same =>
        rcases Option.some.inj held with rfl
        rw [same]
        exact ⟨foreign, List.forall_mem_nil _⟩
    · exact allocated.caches held
  have watches : Respects own table? created
      (created.watch engine.nextId table (.cache engine.nextId)) :=
    respects_watch created table (fun _ => foreign) fun _ => rfl
  rcases watches enrolledCreated with ⟨enrolledAfter, larger⟩
  exact ⟨enrolledAfter, Nat.le_trans (Nat.le_succ _) larger⟩

theorem respects_trackItem (engine : Engine) (id : Nat) (item : Value)
    {callback? : Option Callback}
    (foreign : engine.Enrolled own table? →
      ∀ callback ∈ callback?, engine.Foreign own callback.id) :
    Respects own table? engine (engine.trackItem id item callback?) := by
  have tracks : Respects own table? engine
      (engine.modifyCache id fun cache =>
        { cache with
          tracked := cache.tracked.add item
          waiting :=
            cache.waiting ++ callback?.toList.map fun callback => (item, callback) }) := by
    apply respects_modifyCache
    intro enrolled cache _ before other member
    simp only [ItemCache.callbacks, List.map_append, ← List.append_assoc] at member
    rcases List.mem_append.mp member with earlier | new
    · exact before other earlier
    · simp only [List.map_map, List.mem_map, Option.mem_toList] at new
      rcases new with ⟨callback, among, rfl⟩
      exact foreign enrolled callback among
  exact tracks.trans (respects_requestCache _ id)

/-- A transaction of its own changes the store and the clock. -/
theorem respects_transactDirectly (engine : Engine) (mode : AccessMode) (table : String)
    (steps : List OperationStep) :
    Respects own table? engine (engine.transactDirectly mode table steps).2 := by
  rw [transactDirectly]
  dsimp only
  rw [elapse]
  split <;> exact .of_enrolled (fun enrolled => { enrolled with }) rfl

/-! ## Subscribing -/

theorem watch_register (engine : Engine) (reaction : Reaction Command) (table : String) :
    (engine.register reaction).2.watch engine.nextId table
        (.callback (engine.register reaction).1) =
      { engine.attach with
        nextId := engine.nextId + 1
        registry := engine.registry.watch engine.nextId table
          (.callback (engine.register reaction).1) } := by
  rcases engine with ⟨⟩
  simp only [watch, attach, register, allocate]
  split <;> rfl

/-- A callback that comes to watch a table under a new number is enrolled with the others. -/
theorem Enrolled.subscribe
    (enrolled : engine.Enrolled own table?) (reaction : Reaction Command) (table : String) :
    ((engine.register reaction).2.watch engine.nextId table
        (.callback (engine.register reaction).1)).Enrolled
      (fun id => id = engine.nextId ∨ own id)
      (fun id => if id = engine.nextId then some table else table? id) := by
  have attached : engine.attach.Enrolled own table? := (respects_attach engine enrolled).1
  have nextId : engine.attach.nextId = engine.nextId := engine.attach_frame.2.2.2.2.2.2.2.2
  have registry : engine.attach.registry = engine.registry := engine.attach_frame.2.2.2.2.1
  let after : Engine := { engine.attach with
    nextId := engine.nextId + 1
    registry := engine.registry.watch engine.nextId table
      (.callback (engine.register reaction).1) }
  have foreign {id : Nat} :
      after.Foreign (fun id => id = engine.nextId ∨ own id) id ↔ engine.attach.Foreign own id := by
    rw [Foreign, Foreign, nextId]
    show id < engine.nextId + 1 ∧ ¬ (id = engine.nextId ∨ own id) ↔ _
    rw [not_or]
    constructor
    · rintro ⟨smaller, different, free⟩
      exact ⟨by omega, free⟩
    · rintro ⟨smaller, free⟩
      exact ⟨by omega, by omega, free⟩
  rw [watch_register]
  constructor
  · rintro id (rfl | subscribed)
    · exact Nat.lt_succ_self _
    · exact Nat.lt_succ_of_lt (enrolled.numbered id subscribed)
  · intro id subscribed
    have lists := attached.lists (mt foreign.mpr subscribed)
    rw [registry] at lists
    split
    · next same =>
        subst same
        exact lists.watch_self table (beq_self_eq_true engine.nextId)
    · next different =>
        exact lists.watch (Ne.symm different) table (beq_eq_false_iff_ne.mpr (Ne.symm different))
  · exact fun _ _ => engine.attach_attached
  · exact attached.listeners
  · exact attached.former
  · intro id binding held
    rcases attached.bindings held with ⟨number, callbacks⟩
    exact ⟨foreign.mpr number, fun callback member => foreign.mpr (callbacks callback member)⟩
  · intro id cache held
    rcases attached.caches held with ⟨number, callbacks⟩
    exact ⟨foreign.mpr number, fun callback member => foreign.mpr (callbacks callback member)⟩
  · exact fun task waits callback member => foreign.mpr (attached.queue task waits callback member)

/-- Whoever leaves, the others stay enrolled. -/
theorem Enrolled.leave (enrolled : engine.Enrolled own table?) (id : Nat) :
    (engine.leave id).Enrolled own fun sought => if sought = id then none else table? sought := by
  refine { enrolled with lists := ?_, attached := ?_ }
  · intro sought subscribed
    have lists := enrolled.lists subscribed
    split
    · next same =>
        subst same
        exact lists.remove_self
    · next different => exact lists.remove (Ne.symm different)
  · intro sought watches
    split at watches
    · contradiction
    · exact enrolled.attached sought watches

end Engine

end LiveTable
