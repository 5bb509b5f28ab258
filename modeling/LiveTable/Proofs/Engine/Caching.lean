import LiveTable.Engine.ItemCache
import LiveTable.Engine.Pending
import LiveTable.Proofs.Engine.Execution
import LiveTable.Proofs.Engine.Quiet

/-!
# Engines with caches in order

What holds of an engine between any two activities, as long as it is asked nothing but
requests that run once, item caches, and the opening and closing of its store:

* numbers that have been given out lie below the next one;
* a busy cache has a fetch in the queue, and an open cache watches its table;
* the registry listens as soon as it has a number to listen under;
* callbacks that are registered do not ask for anything else either.

`Engine.Arranged` says so, and each operation on engines keeps it.  What the operations do
to caches is `Engine.Tends`: a cache that does not wait for a fetch is as it was.
-/

set_option autoImplicit false

namespace LiveTable

/-! ## What is asked -/

/-- Whether a command by itself is about requests that run once, caches, or the store's door. -/
def Command.isFetching : Command → Bool
  | .inquire _ | .run | .queue .drain | .cache _ => true
  | .store (.transact _ _ _) => false
  | .store _ => true
  | .request command => command.isOneShot
  | _ => false

/-- Commands that keep caches filled, as do all that their reactions ask in turn. -/
inductive Command.Fetching : Command → Prop where
  | intro {command : Command} (fetching : command.isFetching)
      (reacts : ∀ reaction, command.reaction? = some reaction →
        ∀ inner ∈ reaction.commands, Fetching inner) :
      Fetching command

/-- A callback whose commands keep caches filled. -/
def Callback.Fetching (callback : Callback) : Prop :=
  ∀ command ∈ callback.reaction.commands, command.Fetching

/-- A listener that calls nothing but such callbacks. -/
def Listener.Fetching : Listener → Prop
  | .registry _ => True
  | .callback target => target.Fetching

/-- A watcher that calls nothing but such callbacks. -/
def Watcher.Fetching : Watcher → Prop
  | .callback target => target.Fetching
  | _ => True

/-- A task of a cache, or of a request that runs once. -/
def Task.Fetching : Task → Prop
  | .unit _ .cache _ => True
  | .unit _ (.request asked) _ => asked.request.isOneShot
  | _ => False

/-- A cache that calls nothing but such callbacks. -/
structure ItemCache.Fetching (cache : ItemCache) : Prop where
  consumers : ∀ callback ∈ cache.consumers.all, callback.Fetching
  waiting : ∀ waiting ∈ cache.waiting, waiting.2.Fetching

/-- Two states of a cache fetch the same from the same table and hold the same. -/
structure ItemCache.SameItems (first second : ItemCache) : Prop where
  table : first.table = second.table
  idField : first.idField = second.idField
  tracked : first.tracked = second.tracked
  items : first.items = second.items

namespace ItemCache.SameItems

theorem refl (cache : ItemCache) : cache.SameItems cache :=
  ⟨rfl, rfl, rfl, rfl⟩

theorem trans {first middle last : ItemCache}
    (early : first.SameItems middle) (late : middle.SameItems last) :
    first.SameItems last :=
  ⟨early.table.trans late.table, early.idField.trans late.idField,
    early.tracked.trans late.tracked, early.items.trans late.items⟩

end ItemCache.SameItems

namespace Engine

/-! ## Order -/

/-- A fetch of the cache waits in the queue. -/
def AwaitsFetch (engine : Engine) (id : Nat) : Prop :=
  ∃ clock, Task.unit id .cache clock ∈ engine.queue

/-- The cache of a number watches a table. -/
structure Follows (engine : Engine) (id : Nat) (table : String) : Prop where
  attached : engine.attachment?.isSome
  listed : (id, .cache id) ∈ engine.registry.entriesOf table

/-- The parts of an engine fit together, and every open cache watches its table. -/
structure Arranged (engine : Engine) : Prop where
  store : engine.store.Sound
  numbered {id : Nat} {cache : ItemCache} (held : engine.caches.get? id = some cache) :
    id < engine.nextId
  busy {id : Nat} (busy : id ∈ engine.busy) : id < engine.nextId
  queued {id : Nat} {cache : ItemCache} (held : engine.caches.get? id = some cache)
    (busy : id ∈ engine.busy) : engine.AwaitsFetch id
  tasks : ∀ task ∈ engine.queue, task.Fetching
  attached : engine.attachment?.isSome → .registry engine.generation ∈ engine.listeners.all
  listeners : ∀ listener ∈ engine.listeners.all, listener.Fetching
  watchers {table : String} {entry : Nat × Watcher}
    (listed : entry ∈ engine.registry.entriesOf table) : entry.2.Fetching
  caches {id : Nat} {cache : ItemCache} (held : engine.caches.get? id = some cache) :
    cache.Fetching
  watching {id : Nat} {cache : ItemCache} (held : engine.caches.get? id = some cache)
    (isOpen : cache.isClosed = false) : engine.Follows id cache.table
  bindings : engine.bindings = .empty
  former : engine.former = .empty

theorem create_arranged (name : String) (schema : StoreSchema) (config : Config) :
    (create name schema config).Arranged where
  store := ⟨Tables.empty_wellFormed, fun _ => rfl⟩
  numbered held := nomatch held
  busy busy := nomatch busy
  queued held := nomatch held
  tasks _ member := nomatch member
  attached attached := nomatch attached
  listeners _ member := nomatch member
  watchers listed := nomatch listed
  caches held := nomatch held
  watching held := nomatch held
  bindings := rfl
  former := rfl

/-! ## What operations do to caches -/

/--
No task and no batch is lost, contents change only where a batch says so, and every
open cache has a fetch waiting, or is new, or was open before with the same items.
-/
structure Tends (before after : Engine) : Prop where
  store : before.store.Announces after.store
  generation : after.generation = before.generation
  nextId : before.nextId ≤ after.nextId
  queue : ∀ task ∈ before.queue, task ∈ after.queue
  caches {id : Nat} {cache : ItemCache} (held : after.caches.get? id = some cache)
    (isOpen : cache.isClosed = false) :
    after.AwaitsFetch id ∨ before.nextId ≤ id ∨ ∃ former, before.caches.get? id = some former ∧
      former.isClosed = false ∧ former.SameItems cache

/-- An arranged engine stays arranged and tends its caches. -/
def Upholds (before after : Engine) : Prop :=
  before.Arranged → after.Arranged ∧ before.Tends after

theorem AwaitsFetch.mono
    {before after : Engine} {id : Nat} (awaits : before.AwaitsFetch id)
    (queue : ∀ task ∈ before.queue, task ∈ after.queue) :
    after.AwaitsFetch id := by
  rcases awaits with ⟨clock, member⟩
  exact ⟨clock, queue _ member⟩

theorem Tends.trans
    {first middle last : Engine} (early : first.Tends middle) (late : middle.Tends last) :
    first.Tends last where
  store := early.store.trans late.store
  generation := late.generation.trans early.generation
  nextId := Nat.le_trans early.nextId late.nextId
  queue task member := late.queue task (early.queue task member)
  caches held isOpen := by
    rcases late.caches held isOpen with awaits | new | ⟨between, heldBetween, openBetween, same⟩
    · exact Or.inl awaits
    · exact Or.inr (Or.inl (Nat.le_trans early.nextId new))
    · rcases early.caches heldBetween openBetween with
        awaits | new | ⟨former, heldFormer, openFormer, sameFormer⟩
      · exact Or.inl (awaits.mono late.queue)
      · exact Or.inr (Or.inl new)
      · exact Or.inr (Or.inr ⟨former, heldFormer, openFormer, sameFormer.trans same⟩)

theorem Upholds.trans
    {first middle last : Engine} (early : first.Upholds middle) (late : middle.Upholds last) :
    first.Upholds last := by
  intro arranged
  rcases early arranged with ⟨arrangedMiddle, tendsEarly⟩
  rcases late arrangedMiddle with ⟨arrangedLast, tendsLate⟩
  exact ⟨arrangedLast, tendsEarly.trans tendsLate⟩

/-- Caches that are what they were await nothing new. -/
theorem Tends.of_caches
    {before after : Engine} (store : before.store.Announces after.store)
    (generation : after.generation = before.generation) (nextId : before.nextId ≤ after.nextId)
    (queue : ∀ task ∈ before.queue, task ∈ after.queue)
    (caches : after.caches = before.caches) :
    before.Tends after where
  store := store
  generation := generation
  nextId := nextId
  queue := queue
  caches held isOpen := by
    rw [caches] at held
    exact Or.inr (Or.inr ⟨_, held, isOpen, .refl _⟩)

/-- Whether an engine is arranged shows in its essence and in the next number. -/
theorem SameWork.arranged
    {before after : Engine} (same : before.SameWork after) (arranged : before.Arranged) :
    after.Arranged := by
  rcases same with ⟨essence, nextId⟩
  cases before
  cases after
  simp only [Engine.essence, Essence.mk.injEq] at essence
  rcases essence with ⟨rfl, rfl, rfl, rfl, rfl, rfl, rfl, rfl, rfl, rfl⟩
  exact {
    store := arranged.store
    numbered := fun held => Nat.lt_of_lt_of_le (arranged.numbered held) nextId
    busy := fun busy => Nat.lt_of_lt_of_le (arranged.busy busy) nextId
    queued := arranged.queued
    tasks := arranged.tasks
    attached := arranged.attached
    listeners := arranged.listeners
    watchers := arranged.watchers
    caches := arranged.caches
    watching := fun held isOpen =>
      ⟨(arranged.watching held isOpen).attached, (arranged.watching held isOpen).listed⟩
    bindings := arranged.bindings
    former := arranged.former }

theorem SameWork.upholds {before after : Engine} (same : before.SameWork after) :
    before.Upholds after := by
  intro arranged
  refine ⟨same.arranged arranged, .of_caches ?_ same.generation same.nextId ?_ ?_⟩
  · rw [same.store]
    exact .of_unchanged rfl rfl
  · rw [same.queue]
    exact fun _ member => member
  · exact congrArg Essence.caches same.essence

variable {engine : Engine}

theorem upholds_refl (engine : Engine) : engine.Upholds engine :=
  SameWork.upholds (.of_essence rfl rfl)

theorem upholds_register (engine : Engine) (reaction : Reaction Command) :
    engine.Upholds (engine.register reaction).2 :=
  SameWork.upholds ⟨rfl, Nat.le_succ _⟩

theorem upholds_register? (engine : Engine) (reaction? : Option (Reaction Command)) :
    engine.Upholds (engine.register? reaction?).2 := by
  cases reaction? with
  | none => exact upholds_refl engine
  | some reaction => exact upholds_register engine reaction

theorem upholds_rename (engine : Engine) (name : String) (change : Handles → Handles) :
    engine.Upholds (engine.rename name change) :=
  SameWork.upholds (.of_essence rfl rfl)

theorem upholds_hold (engine : Engine) (held : Held) : engine.Upholds (engine.hold held) :=
  SameWork.upholds (.of_essence rfl rfl)

theorem Arranged.withStore
    (arranged : engine.Arranged) {store : Store} (sound : store.Sound) :
    ({ engine with store := store } : Engine).Arranged where
  store := sound
  numbered := arranged.numbered
  busy := arranged.busy
  queued := arranged.queued
  tasks := arranged.tasks
  attached := arranged.attached
  listeners := arranged.listeners
  watchers := arranged.watchers
  caches := arranged.caches
  watching held isOpen :=
    ⟨(arranged.watching held isOpen).attached, (arranged.watching held isOpen).listed⟩
  bindings := arranged.bindings
  former := arranged.former

/-- A store that announces what has changed may take the place of the one before. -/
theorem upholds_store
    {store : Store} (kept : engine.store.Sound → store.Sound ∧ engine.store.Announces store) :
    engine.Upholds { engine with store := store } := by
  intro arranged
  rcases kept arranged.store with ⟨sound, announces⟩
  exact ⟨arranged.withStore sound,
    .of_caches announces rfl (Nat.le_refl _) (fun _ member => member) rfl⟩

/-! ## Requests -/

theorem upholds_schedule
    {executor : Nat} {job : Job} (fetching : ∀ clock, (Task.unit executor job clock).Fetching)
    (numbered : engine.Arranged → executor < engine.nextId)
    (own : job = .cache ∨ (engine.Arranged → engine.caches.get? executor = none)) :
    engine.Upholds (engine.schedule executor job).2 := by
  intro arranged
  rw [schedule]
  split
  · exact upholds_refl engine arranged
  · have kept : ∀ task ∈ engine.queue,
        task ∈ engine.queue ++ [.unit executor job engine.clock.number] :=
      fun task member => List.mem_append_left _ member
    refine ⟨?_, .of_caches (.of_unchanged rfl rfl) rfl (Nat.le_refl _) kept rfl⟩
    refine { arranged with busy := ?_, queued := ?_, tasks := ?_, watching := ?_ }
    · intro id busy
      rcases List.mem_cons.mp busy with rfl | before
      · exact numbered arranged
      · exact arranged.busy before
    · intro id cache held busy
      rcases List.mem_cons.mp busy with rfl | before
      · rcases own with rfl | missing
        · exact ⟨_, List.mem_append_right _ List.mem_cons_self⟩
        · have heldBefore : engine.caches.get? id = some cache := held
          rw [missing arranged] at heldBefore
          contradiction
      · exact (arranged.queued held before).mono kept
    · intro task member
      rcases List.mem_append.mp member with before | new
      · exact arranged.tasks task before
      · rw [List.mem_singleton.mp new]
        exact fetching _
    · intro id cache held isOpen
      exact ⟨(arranged.watching held isOpen).attached, (arranged.watching held isOpen).listed⟩

theorem upholds_requestCache (engine : Engine) (id : Nat) :
    engine.Upholds (engine.requestCache id).2 := by
  rw [requestCache]
  split
  · next cache held =>
      split
      · exact upholds_refl engine
      · exact upholds_schedule (fun _ => trivial) (fun arranged => arranged.numbered held)
          (Or.inl rfl)
  · exact upholds_refl engine

theorem caches_requestCache (engine : Engine) (id : Nat) :
    (engine.requestCache id).2.caches = engine.caches := by
  rw [requestCache]
  split
  · split
    · rfl
    · rw [schedule]
      split <;> rfl
  · rfl

/-- Once an open cache has requested a fetch, one waits. -/
theorem awaits_requestCache
    (arranged : engine.Arranged) {id : Nat} {cache : ItemCache}
    (held : engine.caches.get? id = some cache) (isOpen : cache.isClosed = false) :
    (engine.requestCache id).2.AwaitsFetch id := by
  rw [requestCache, held]
  simp only [isOpen, Bool.false_eq_true, if_false]
  -- A request that is rejected finds the fetch of an earlier one in the queue.
  rw [schedule]
  split
  · next busy => exact arranged.queued held (List.contains_iff_mem.mp busy)
  · exact ⟨_, List.mem_append_right _ List.mem_cons_self⟩

/-- Without bindings nothing is requested of one. -/
theorem requestBinding_eq (arranged : engine.Arranged) (id : Nat) :
    (engine.requestBinding id).2 = engine := by
  rw [requestBinding, arranged.bindings]
  rfl

theorem upholds_requestBinding (engine : Engine) (id : Nat) :
    engine.Upholds (engine.requestBinding id).2 := by
  intro arranged
  rw [requestBinding_eq arranged]
  exact upholds_refl engine arranged

theorem caches_fresh (arranged : engine.Arranged) : engine.caches.get? engine.nextId = none := by
  cases held : engine.caches.get? engine.nextId with
  | none => rfl
  | some cache => exact absurd (arranged.numbered held) (Nat.lt_irrefl _)

theorem upholds_submit
    (engine : Engine) (table : String) {request : Request} (oneShot : request.isOneShot) :
    engine.Upholds (engine.submit table request).2 := by
  intro arranged
  have allocated : engine.Upholds engine.allocate.2 := SameWork.upholds ⟨rfl, Nat.le_succ _⟩
  have scheduled :
      engine.allocate.2.Upholds
        (engine.allocate.2.schedule engine.nextId (.request ⟨table, request.mode, request⟩)).2 :=
    upholds_schedule (fun _ => oneShot) (fun _ => Nat.lt_succ_self _)
      (Or.inr fun _ => caches_fresh arranged)
  exact allocated.trans scheduled arranged

/-! ## Changing caches -/

theorem get?_modifyCache
    (engine : Engine) (id sought : Nat) (change : ItemCache → ItemCache) :
    (engine.modifyCache id change).caches.get? sought =
      if sought = id then (engine.caches.get? sought).map change
      else engine.caches.get? sought := by
  rw [modifyCache, OrderedMap.get?_modify]
  simp only [Std.compare_eq_iff_eq]

/-- A cache after a change of one is a changed one or was there before. -/
theorem get?_modifyCache_cases
    {id sought : Nat} {change : ItemCache → ItemCache} {cache : ItemCache}
    (held : (engine.modifyCache id change).caches.get? sought = some cache) :
    ∃ former, engine.caches.get? sought = some former ∧
      (cache = former ∧ sought ≠ id ∨ cache = change former ∧ sought = id) := by
  rw [get?_modifyCache] at held
  split at held
  · next same =>
      rcases Option.map_eq_some_iff.mp held with ⟨former, heldFormer, rfl⟩
      exact ⟨former, heldFormer, Or.inr ⟨rfl, same⟩⟩
  · next different => exact ⟨cache, held, Or.inl ⟨rfl, different⟩⟩

/-- A cache may be changed if it goes on watching its table, or is closed and calls nobody. -/
theorem Arranged.modifyCache
    (arranged : engine.Arranged) (id : Nat) {change : ItemCache → ItemCache}
    (fetching : ∀ cache : ItemCache, cache.Fetching → (change cache).Fetching)
    (stays : ∀ cache : ItemCache,
      (change cache).isClosed = cache.isClosed ∧ (change cache).table = cache.table) :
    (engine.modifyCache id change).Arranged where
  store := arranged.store
  numbered held := by
    rcases get?_modifyCache_cases held with ⟨former, heldFormer, _⟩
    exact arranged.numbered heldFormer
  busy := arranged.busy
  queued held busy := by
    rcases get?_modifyCache_cases held with ⟨former, heldFormer, _⟩
    exact arranged.queued heldFormer busy
  tasks := arranged.tasks
  attached := arranged.attached
  listeners := arranged.listeners
  watchers := arranged.watchers
  caches held := by
    rcases get?_modifyCache_cases held with ⟨former, heldFormer, ⟨rfl, _⟩ | ⟨rfl, _⟩⟩
    · exact arranged.caches heldFormer
    · exact fetching former (arranged.caches heldFormer)
  watching {sought cache} held isOpen := by
    have follows : engine.Follows sought cache.table := by
      rcases get?_modifyCache_cases held with ⟨former, heldFormer, ⟨rfl, _⟩ | ⟨rfl, _⟩⟩
      · exact arranged.watching heldFormer isOpen
      · rw [(stays former).2]
        exact arranged.watching heldFormer ((stays former).1 ▸ isOpen)
    exact ⟨follows.attached, follows.listed⟩
  bindings := arranged.bindings
  former := arranged.former

/-- What does not change what a cache fetches and holds upholds it. -/
theorem upholds_modifyCache
    (id : Nat) {change : ItemCache → ItemCache}
    (fetching : engine.Arranged → ∀ cache : ItemCache, cache.Fetching → (change cache).Fetching)
    (stays : ∀ cache : ItemCache,
      (change cache).isClosed = cache.isClosed ∧ cache.SameItems (change cache)) :
    engine.Upholds (engine.modifyCache id change) := by
  intro arranged
  refine ⟨?_, .of_unchanged rfl rfl, rfl, Nat.le_refl _, fun _ member => member, ?_⟩
  · exact arranged.modifyCache id (fetching arranged) fun cache =>
      ⟨(stays cache).1, (stays cache).2.table.symm⟩
  · intro sought cache held isOpen
    rcases get?_modifyCache_cases held with ⟨former, heldFormer, ⟨rfl, _⟩ | ⟨rfl, _⟩⟩
    · exact Or.inr (Or.inr ⟨cache, heldFormer, isOpen, .refl cache⟩)
    · exact Or.inr (Or.inr ⟨former, heldFormer, (stays former).1 ▸ isOpen, (stays former).2⟩)

/-- A cache that asks for a fetch may be made to track whatever it is made to. -/
theorem upholds_trackItem
    (engine : Engine) (id : Nat) (item : Value) (callback? : Option Callback)
    (fetching : ∀ callback, callback? = some callback → callback.Fetching) :
    engine.Upholds (engine.trackItem id item callback?) := by
  let change : ItemCache → ItemCache := fun cache =>
    { cache with
      tracked := cache.tracked.add item
      waiting := cache.waiting ++ callback?.toList.map fun callback => (item, callback) }
  show engine.Upholds ((engine.modifyCache id change).requestCache id).2
  intro arranged
  have arrangedChanged : (engine.modifyCache id change).Arranged := by
    apply arranged.modifyCache id
    · intro cache before
      refine ⟨before.consumers, ?_⟩
      intro waiting member
      rcases List.mem_append.mp member with former | new
      · exact before.waiting waiting former
      · rcases List.mem_map.mp new with ⟨callback, among, rfl⟩
        exact fetching callback (Option.mem_toList.mp among)
    · exact fun _ => ⟨rfl, rfl⟩
  rcases upholds_requestCache (engine.modifyCache id change) id arrangedChanged with
    ⟨arrangedAfter, tends⟩
  refine ⟨arrangedAfter, tends.store, tends.generation, tends.nextId, tends.queue, ?_⟩
  intro sought cache held isOpen
  rw [caches_requestCache] at held
  rcases get?_modifyCache_cases held with ⟨former, heldFormer, ⟨rfl, _⟩ | ⟨rfl, rfl⟩⟩
  · exact Or.inr (Or.inr ⟨cache, heldFormer, isOpen, .refl cache⟩)
  · exact Or.inl (awaits_requestCache arrangedChanged held isOpen)

/-! ## New caches -/

theorem get?_insertCache (engine : Engine) (id sought : Nat) (cache : ItemCache) :
    (engine.caches.insert id cache).get? sought =
      if sought = id then some cache else engine.caches.get? sought := by
  rw [OrderedMap.get?_insert]
  simp only [Std.compare_eq_iff_eq]

theorem Arranged.attach (arranged : engine.Arranged) : engine.attach.Arranged := by
  rw [Engine.attach]
  split
  · exact arranged
  · refine { arranged with attached := ?_, listeners := ?_, watching := ?_ }
    · intro _
      simp [Subscribers.add, Subscribers.all]
    · intro listener member
      rcases Subscribers.mem_all_add.mp member with before | rfl
      · exact arranged.listeners listener before
      · trivial
    · exact fun held isOpen => ⟨rfl, (arranged.watching held isOpen).listed⟩

/-- An engine with a new cache under its next number, which watches its table. -/
def withNewCache (engine : Engine) (table idField : String) : Engine :=
  { engine with
    nextId := engine.nextId + 1
    caches := engine.caches.insert engine.nextId (.create table idField)
    registry := engine.registry.watch engine.nextId table (.cache engine.nextId) }

theorem createCache_eq (engine : Engine) (table idField : String) :
    (engine.createCache table idField).2 = engine.attach.withNewCache table idField := by
  simp only [createCache, allocate, watch, Engine.attach, withNewCache]
  split <;> rfl

/-- A cache is the new one, or it was there before. -/
theorem of_get?_withNewCache
    {table idField : String} {sought : Nat} {cache : ItemCache}
    (held : (engine.withNewCache table idField).caches.get? sought = some cache) :
    sought = engine.nextId ∧ cache = .create table idField ∨
      sought ≠ engine.nextId ∧ engine.caches.get? sought = some cache := by
  rw [withNewCache, get?_insertCache] at held
  split at held
  · next same => exact Or.inl ⟨same, (Option.some.inj held).symm⟩
  · next different => exact Or.inr ⟨different, held⟩

theorem Arranged.withNewCache
    (arranged : engine.Arranged) (attached : engine.attachment?.isSome) (table idField : String) :
    (engine.withNewCache table idField).Arranged where
  store := arranged.store
  numbered held := by
    rcases of_get?_withNewCache held with ⟨rfl, _⟩ | ⟨_, before⟩
    · exact Nat.lt_succ_self _
    · exact Nat.lt_succ_of_lt (arranged.numbered before)
  busy busy := Nat.lt_succ_of_lt (arranged.busy busy)
  queued held busy := by
    rcases of_get?_withNewCache held with ⟨rfl, _⟩ | ⟨_, before⟩
    · exact absurd (arranged.busy busy) (Nat.lt_irrefl _)
    · exact arranged.queued before busy
  tasks := arranged.tasks
  attached := arranged.attached
  listeners := arranged.listeners
  watchers listed := by
    rcases Registry.of_mem_entriesOf_watch listed with rfl | before
    · trivial
    · exact arranged.watchers before
  caches held := by
    rcases of_get?_withNewCache held with ⟨_, rfl⟩ | ⟨_, before⟩
    · exact ⟨List.forall_mem_nil _, List.forall_mem_nil _⟩
    · exact arranged.caches before
  watching held isOpen := by
    rcases of_get?_withNewCache held with ⟨rfl, rfl⟩ | ⟨different, before⟩
    · exact ⟨attached, Registry.mem_entriesOf_watch_self _ _ _ _⟩
    · have follows := arranged.watching before isOpen
      exact ⟨follows.attached, Registry.mem_entriesOf_watch different follows.listed⟩
  bindings := arranged.bindings
  former := arranged.former

/-- A new cache watches its table from the first. -/
theorem upholds_createCache (engine : Engine) (table idField : String) :
    engine.Upholds (engine.createCache table idField).2 := by
  intro arranged
  rcases engine.attach_frame with
    ⟨store, _, queue, _, _, generation, caches, _, nextId⟩
  rw [createCache_eq]
  refine ⟨arranged.attach.withNewCache engine.attach_attached table idField, ?_⟩
  constructor
  · exact .of_unchanged (congrArg Store.outbox store) (congrArg Store.tables store)
  · exact generation
  · rw [← nextId]
    exact Nat.le_succ _
  · intro task member
    show task ∈ engine.attach.queue
    rwa [queue]
  · intro sought cache held isOpen
    rcases of_get?_withNewCache held with ⟨rfl, _⟩ | ⟨_, before⟩
    · rw [nextId]
      exact Or.inr (Or.inl (Nat.le_refl _))
    · rw [caches] at before
      exact Or.inr (Or.inr ⟨cache, before, isOpen, .refl cache⟩)

/-! ## Closing -/

/-- A closed cache watches nothing, and calls nobody. -/
theorem upholds_closeCache (engine : Engine) (id : Nat) :
    engine.Upholds (engine.closeCache id) := by
  intro arranged
  rw [closeCache]
  split
  · exact upholds_refl engine arranged
  · split
    · exact upholds_refl engine arranged
    · let close : ItemCache → ItemCache := fun cache =>
        { cache with isClosed := true, consumers := cache.consumers.clear, waiting := [] }
      show ((engine.leave id).modifyCache id close).Arranged ∧ _
      have former {sought : Nat} {cache : ItemCache}
          (held : ((engine.leave id).modifyCache id close).caches.get? sought = some cache) :
          ∃ before, engine.caches.get? sought = some before ∧
            (cache = before ∧ sought ≠ id ∨ cache = close before ∧ sought = id) :=
        get?_modifyCache_cases held
      refine ⟨{ arranged with
        numbered := ?_, queued := ?_, watchers := ?_, caches := ?_, watching := ?_ },
        .of_unchanged rfl rfl, rfl, Nat.le_refl _, fun _ member => member, ?_⟩
      · intro sought cache held
        rcases former held with ⟨before, heldBefore, _⟩
        exact arranged.numbered heldBefore
      · intro sought cache held busy
        rcases former held with ⟨before, heldBefore, _⟩
        exact arranged.queued heldBefore busy
      · intro table entry listed
        exact arranged.watchers (Registry.of_mem_entriesOf_remove listed)
      · intro sought cache held
        rcases former held with ⟨before, heldBefore, ⟨rfl, _⟩ | ⟨rfl, _⟩⟩
        · exact arranged.caches heldBefore
        · exact ⟨List.forall_mem_nil _, List.forall_mem_nil _⟩
      · intro sought cache held isOpen
        rcases former held with ⟨before, heldBefore, ⟨rfl, different⟩ | ⟨rfl, _⟩⟩
        · have follows := arranged.watching heldBefore isOpen
          exact ⟨follows.attached, Registry.mem_entriesOf_remove different follows.listed⟩
        · contradiction
      · intro sought cache held isOpen
        rcases former held with ⟨before, heldBefore, ⟨rfl, _⟩ | ⟨rfl, _⟩⟩
        · exact Or.inr (Or.inr ⟨cache, heldBefore, isOpen, .refl cache⟩)
        · contradiction

theorem upholds_closeBinding (engine : Engine) (id : Nat) :
    engine.Upholds (engine.closeBinding id) := by
  intro arranged
  have unchanged : engine.closeBinding id = engine := by
    rw [closeBinding, arranged.bindings]
    rfl
  rw [unchanged]
  exact upholds_refl engine arranged

theorem upholds_closeObject (engine : Engine) (id : Nat) :
    engine.Upholds (engine.closeObject id) :=
  (upholds_closeBinding engine id).trans (upholds_closeCache _ id)

theorem upholds_discard (engine : Engine) (id : Nat) : engine.Upholds (engine.discard id) := by
  rw [discard]
  split
  · exact SameWork.upholds (.of_essence rfl rfl)
  · exact upholds_closeObject engine id

theorem upholds_settleGivenUp (engine : Engine) (held : Held) :
    engine.Upholds (engine.settleGivenUp held) := by
  cases held with
  | registry generation =>
      intro arranged
      have unchanged : engine.settleGivenUp (.registry generation) = engine := by
        rw [settleGivenUp, arranged.former]
        rfl
      rw [unchanged]
      exact upholds_refl engine arranged
  | object id =>
      rw [settleGivenUp]
      split
      · exact (upholds_closeObject engine id).trans (SameWork.upholds (.of_essence rfl rfl))
      · exact upholds_refl engine

theorem upholds_letGo (engine : Engine) (held : Held) : engine.Upholds (engine.letGo held) := by
  have released : engine.Upholds { engine with holds := engine.holds.erase held } :=
    SameWork.upholds (.of_essence rfl rfl)
  rw [letGo]
  split
  · exact released
  · exact released.trans (upholds_settleGivenUp _ held)

/-! ## After a unit -/

/-- The engine after a unit at the head of its queue: the executor is free. -/
theorem arranged_afterUnit
    (arranged : engine.Arranged) {executor clock : Nat} {job : Job} {rest : List Task}
    (queue : engine.queue = .unit executor job clock :: rest)
    {worked : Engine} (same : SameWork { engine with queue := rest, store := worked.store } worked)
    (sound : worked.store.Sound) :
    (worked.release executor).Arranged := by
  let freed : Engine :=
    { engine with
      queue := rest
      store := worked.store
      busy := engine.busy.filter (· != executor) }
  have sameFreed : freed.SameWork (worked.release executor) := by
    constructor
    · exact congrArg
        (fun essence : Essence => { essence with busy := essence.busy.filter (· != executor) })
        same.essence
    · exact same.nextId
  apply sameFreed.arranged
  refine { arranged with store := sound, busy := ?_, queued := ?_, tasks := ?_, watching := ?_ }
  · intro id busy
    exact arranged.busy (List.mem_filter.mp busy).1
  · intro id cache held busy
    rcases List.mem_filter.mp busy with ⟨before, different⟩
    rcases arranged.queued held before with ⟨number, waits⟩
    rw [queue] at waits
    rcases List.mem_cons.mp waits with head | later
    · have sameId : id = executor := by
        injection head
      simp [sameId] at different
    · exact ⟨number, later⟩
  · intro task waits
    apply arranged.tasks task
    rw [queue]
    exact List.mem_cons_of_mem _ waits
  · intro id cache held isOpen
    exact ⟨(arranged.watching held isOpen).attached, (arranged.watching held isOpen).listed⟩

end Engine

end LiveTable
