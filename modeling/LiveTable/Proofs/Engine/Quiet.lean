import LiveTable.Engine.Run
import LiveTable.Proofs.Engine.Operations
import LiveTable.Proofs.Store.Sequence

/-!
# Quiet callbacks

A quiet command queues no work: it neither hands a unit to an executor nor puts a batch
into the outbox, and it does not block the store.  It may open the store, and close it
where that is no more than opening it again later.  What it may do besides is to look,
to register and remove watchers, and to run or resolve what has been queued already.

`Engine.Peaceful` says of an engine that all callbacks that it may call are quiet and
that no binding erases what it selects.  Operations on engines keep that, and of the
store, the queue, the outcomes and the names of requests they leave what `Engine.Frame`
says.
-/

set_option autoImplicit false

namespace LiveTable

/-! ## What is asked -/

/-- The reaction that a command registers. -/
def Command.reaction? : Command → Option (Reaction Command)
  | .feed (.listen reaction) => some reaction
  | .registry (.watch _ _ reaction) => some reaction
  | .executor (.run _ _ _ _ _ reaction _) => some reaction
  | .watch (.create _ _ reaction) => some reaction
  | .binding command => command.reaction?
  | .cache (.request _ _ reaction?) => reaction?
  | .cache (.subscribe _ reaction) => some reaction
  | _ => none

/-- Whether a command by itself queues no work; closing the store counts if it can be reopened. -/
def Command.isQuiet (closable : Bool) : Command → Bool
  | .inquire _ | .clock _ | .watch _ | .run | .drop _ => true
  | .feed (.publish _) => false
  | .feed _ => true
  | .registry (.dispatch _) => false
  | .registry _ => true
  | .queue (.push _) => false
  | .queue .drain => true
  | .store .ensureOpen => true
  | .store .close => closable
  | .store _ => false
  | .request (.submit _ _ _) => false
  | .request _ => true
  | .executor (.create _) => true
  | .executor (.run ..) => false
  | .binding (.subscribe _ _) | .binding (.unsubscribe _ _) | .binding (.close _) => true
  | .binding _ => false
  | .cache (.request _ _ _) | .cache (.fetch _) => false
  | .cache _ => true

/-- Commands that queue no work, and whose reactions queue none in turn. -/
inductive Command.Quiet (closable : Bool) : Command → Prop where
  | intro {command : Command} (quiet : command.isQuiet closable)
      (reacts : ∀ reaction, command.reaction? = some reaction →
        ∀ inner ∈ reaction.commands, Quiet closable inner) :
      Quiet closable command

/-- Whether a descriptor reads only. -/
def Descriptor.reads (descriptor : Descriptor) : Bool :=
  descriptor.projection != .erase

/-- Whether a command gives a binding no descriptor that erases. -/
def BindingCommand.reads {Command : Type} : BindingCommand Command → Bool
  | .create _ _ descriptor => descriptor.reads
  | .setDescriptor _ descriptor => descriptor.reads
  | .fetch _ _ descriptor? _ => descriptor?.all Descriptor.reads
  | _ => true

/--
Whether a command by itself is one of those that are considered between calls: quiet ones,
requests that run once, and whatever makes bindings and caches read.
-/
def Command.isCalm (closable : Bool) : Command → Bool
  | .request (.submit _ _ asked) => asked.isOneShot
  | .registry (.dispatch _) => true
  | .binding command => command.reads
  | .cache _ => true
  | command => command.isQuiet closable

/-- Commands that are considered between calls, and whose reactions are quiet. -/
structure Command.Calm (closable : Bool) (command : Command) : Prop where
  calm : command.isCalm closable
  reacts : ∀ reaction, command.reaction? = some reaction →
    ∀ inner ∈ reaction.commands, inner.Quiet closable

theorem Command.isCalm_of_isQuiet {closable : Bool} {command : Command}
    (quiet : command.isQuiet closable) : command.isCalm closable := by
  cases command with
  | binding command => cases command <;> first | rfl | contradiction
  | request command => cases command <;> first | rfl | contradiction
  | registry command => cases command <;> rfl
  | _ => first | rfl | exact quiet

theorem Command.Quiet.calm {closable : Bool} {command : Command} (quiet : command.Quiet closable) :
    command.Calm closable := by
  cases quiet with
  | intro quiet reacts => exact ⟨isCalm_of_isQuiet quiet, reacts⟩

/-- A command that registers no reaction is calm if it is by itself. -/
theorem Command.calm_of_silent {closable : Bool} {command : Command}
    (calm : command.isCalm closable) (silent : command.reaction? = none) :
    command.Calm closable where
  calm := calm
  reacts reaction reacts := by
    rw [silent] at reacts
    contradiction

/-- A callback whose commands are quiet. -/
def Callback.Quiet (closable : Bool) (callback : Callback) : Prop :=
  ∀ command ∈ callback.reaction.commands, command.Quiet closable

/-- A listener that calls nothing but quiet callbacks. -/
def Listener.Quiet (closable : Bool) : Listener → Prop
  | .registry _ => True
  | .callback target => target.Quiet closable

/-- A watcher that calls nothing but quiet callbacks. -/
def Watcher.Quiet (closable : Bool) : Watcher → Prop
  | .callback target => target.Quiet closable
  | _ => True

/-- A registry that lists nothing but quiet watchers. -/
def Registry.Quiet (closable : Bool) (registry : Registry Watcher) : Prop :=
  ∀ {table : String} {entry : Nat × Watcher}, entry ∈ registry.entriesOf table →
    entry.2.Quiet closable

/-- A binding that reads and calls nothing but quiet callbacks. -/
structure Binding.Quiet (closable : Bool) (binding : Binding) : Prop where
  reads : binding.descriptor.reads
  consumers : ∀ callback ∈ binding.consumers.all, callback.Quiet closable
  waiting : ∀ callback ∈ binding.waiting, callback.Quiet closable

/-- A cache that calls nothing but quiet callbacks. -/
structure ItemCache.Quiet (closable : Bool) (cache : ItemCache) : Prop where
  waiting : ∀ waiting ∈ cache.waiting, waiting.2.Quiet closable
  consumers : ∀ callback ∈ cache.consumers.all, callback.Quiet closable

/-- Whether a task is a unit of a binding or of a cache. -/
def Task.isOfObject : Task → Bool
  | .unit _ .binding _ | .unit _ .cache _ => true
  | _ => false

/-! ## What operations leave -/

/-- A store stays what it is, up to its having been opened. -/
structure Store.Kept (before after : Store) : Prop where
  agrees : after.Agrees before
  outbox : after.outbox = before.outbox
  sound : before.Sound → after.Sound
  created : (before.isOpen → before.isCreated) → after.isOpen → after.isCreated
  blocked? : after.blocked? = before.blocked?

namespace Store.Kept

theorem refl (store : Store) : store.Kept store :=
  ⟨.refl store, rfl, id, id, rfl⟩

theorem trans {first middle last : Store} (early : first.Kept middle) (late : middle.Kept last) :
    first.Kept last :=
  ⟨late.agrees.trans early.agrees, late.outbox.trans early.outbox,
    fun sound => late.sound (early.sound sound),
    fun created => late.created (early.created created),
    late.blocked?.trans early.blocked?⟩

theorem of_open? {store ready : Store} (opening : store.open? = .ok ready) : store.Kept ready := by
  refine ⟨Store.agrees_of_open? opening, ?_,
    fun sound => (Store.open?_keeps sound opening).1, ?_, ?_⟩
  all_goals rcases Store.of_open? opening with ⟨rfl, _⟩ | ⟨tables, rfl⟩
  · rfl
  · rfl
  · exact id
  · exact fun _ _ => rfl
  · rfl
  · rfl

theorem of_opened (store : Store) : store.Kept store.opened := by
  cases opening : store.open? with
  | error error =>
      rw [Store.opened_of_error opening]
      exact .refl store
  | ok ready =>
      rw [Store.opened_of_ok opening]
      exact .of_open? opening

/-- A store that is not blocked may be closed. -/
theorem of_close {store : Store} (unblocked : store.blocked? = none)
    (created : store.isOpen → store.isCreated) : store.Kept store.close where
  agrees := Store.agrees_close unblocked created
  outbox := rfl
  sound sound := ⟨sound.wellFormed, sound.created⟩
  created _ isOpen := absurd isOpen Bool.false_ne_true
  blocked? := rfl

end Store.Kept

namespace Engine

/-- Callbacks are quiet, bindings do not erase, and numbers in use lie below the next one. -/
structure Peaceful (closable : Bool) (engine : Engine) : Prop where
  busy : ∀ id ∈ engine.busy, id < engine.nextId
  listeners : ∀ listener ∈ engine.listeners.all, listener.Quiet closable
  registry : engine.registry.Quiet closable
  former {generation : Nat} {former : FormerRegistry}
    (held : engine.former.get? generation = some former) : former.registry.Quiet closable
  bindings {id : Nat} {binding : Binding} (held : engine.bindings.get? id = some binding) :
    binding.Quiet closable ∧ id < engine.nextId
  caches {id : Nat} {cache : ItemCache} (held : engine.caches.get? id = some cache) :
    cache.Quiet closable ∧ id < engine.nextId

/-- What an operation that queues some tasks of bindings and caches leaves as it is. -/
structure Frame (added : List Task) (before after : Engine) : Prop where
  store : before.store.Kept after.store
  queue : after.queue = before.queue ++ added
  objects : ∀ task ∈ added, task.isOfObject
  outcomes (id : Nat) : after.outcomes.get? id = before.outcomes.get? id
  names {name : String} {id : Nat} (stands : (after.handles name).request? = some id) :
    (before.handles name).request? = some id
  nextId : before.nextId ≤ after.nextId

/-- A peaceful engine stays peaceful, and the frame is kept. -/
def Keeps (closable : Bool) (added : List Task) (before after : Engine) : Prop :=
  before.Peaceful closable → after.Peaceful closable ∧ Frame added before after

variable {closable : Bool} {engine : Engine}

theorem Frame.of_kept
    {before after : Engine} (store : before.store.Kept after.store)
    (queue : after.queue = before.queue) (outcomes : after.outcomes = before.outcomes)
    (names : after.names = before.names) (nextId : before.nextId ≤ after.nextId) :
    Frame [] before after where
  store := store
  queue := by rw [queue, List.append_nil]
  objects _ member := absurd member List.not_mem_nil
  outcomes id := by rw [outcomes]
  names stands := by rwa [handles, names] at stands
  nextId := nextId

theorem Frame.trans
    {first middle last : Engine} {earlyAdded lateAdded : List Task}
    (early : Frame earlyAdded first middle) (late : Frame lateAdded middle last) :
    Frame (earlyAdded ++ lateAdded) first last where
  store := early.store.trans late.store
  queue := by rw [late.queue, early.queue, List.append_assoc]
  objects task member := (List.mem_append.mp member).elim (early.objects task) (late.objects task)
  outcomes id := (late.outcomes id).trans (early.outcomes id)
  names stands := early.names (late.names stands)
  nextId := Nat.le_trans early.nextId late.nextId

theorem Keeps.trans
    {first middle last : Engine} {earlyAdded lateAdded : List Task}
    (early : Keeps closable earlyAdded first middle) (late : Keeps closable lateAdded middle last) :
    Keeps closable (earlyAdded ++ lateAdded) first last := by
  intro peaceful
  rcases early peaceful with ⟨peacefulMiddle, frameEarly⟩
  rcases late peacefulMiddle with ⟨peacefulLast, frameLate⟩
  exact ⟨peacefulLast, frameEarly.trans frameLate⟩

theorem Keeps.of_same
    {before after : Engine}
    (peaceful : before.Peaceful closable → after.Peaceful closable)
    (store : after.store = before.store) (queue : after.queue = before.queue)
    (outcomes : after.outcomes = before.outcomes) (names : after.names = before.names)
    (nextId : before.nextId ≤ after.nextId) :
    Keeps closable [] before after :=
  fun calm => ⟨peaceful calm, .of_kept (store ▸ .refl _) queue outcomes names nextId⟩

theorem keeps_refl (engine : Engine) : Keeps closable [] engine engine :=
  .of_same id rfl rfl rfl rfl (Nat.le_refl _)

/-! ## Registering and watching -/

theorem Peaceful.grow (peaceful : engine.Peaceful closable) {nextId : Nat}
    (larger : engine.nextId ≤ nextId) :
    ({ engine with nextId := nextId } : Engine).Peaceful closable where
  busy id busy := Nat.lt_of_lt_of_le (peaceful.busy id busy) larger
  listeners := peaceful.listeners
  registry := peaceful.registry
  former := peaceful.former
  bindings held :=
    ⟨(peaceful.bindings held).1, Nat.lt_of_lt_of_le (peaceful.bindings held).2 larger⟩
  caches held := ⟨(peaceful.caches held).1, Nat.lt_of_lt_of_le (peaceful.caches held).2 larger⟩

theorem keeps_allocate (engine : Engine) : Keeps closable [] engine engine.allocate.2 :=
  .of_same (fun peaceful => peaceful.grow (Nat.le_succ _)) rfl rfl rfl rfl (Nat.le_succ _)

theorem keeps_register (engine : Engine) (reaction : Reaction Command) :
    Keeps closable [] engine (engine.register reaction).2 :=
  keeps_allocate engine

theorem keeps_register? (engine : Engine) (reaction? : Option (Reaction Command)) :
    Keeps closable [] engine (engine.register? reaction?).2 := by
  cases reaction? with
  | none => exact keeps_refl engine
  | some reaction => exact keeps_register engine reaction

theorem handles_rename (engine : Engine) (name sought : String) (change : Handles → Handles) :
    (engine.rename name change).handles sought =
      if sought = name then change (engine.handles name) else engine.handles sought := by
  rw [handles, rename]
  dsimp only
  rw [OrderedMap.get?_insert]
  simp only [Std.compare_eq_iff_eq]
  split <;> rfl

/-- A name may come to stand for something else, as long as it is for no other request. -/
theorem keeps_rename (engine : Engine) (name : String) (change : Handles → Handles)
    (request : ∀ handles id, (change handles).request? = some id → handles.request? = some id) :
    Keeps closable [] engine (engine.rename name change) := by
  intro peaceful
  have nothing : ∀ task ∈ ([] : List Task), task.isOfObject := List.forall_mem_nil _
  refine ⟨{ peaceful with }, .refl _, (List.append_nil _).symm, nothing, fun _ => rfl, ?_,
    Nat.le_refl _⟩
  intro sought id stands
  rw [handles_rename] at stands
  split at stands
  · next same =>
      rw [same]
      exact request _ _ stands
  · exact stands

theorem Peaceful.withListener (peaceful : engine.Peaceful closable) {listener : Listener}
    (quiet : listener.Quiet closable) :
    ({ engine with listeners := (engine.listeners.add listener).2 } : Engine).Peaceful
      closable := by
  refine { peaceful with listeners := ?_ }
  intro other member
  rcases Subscribers.mem_all_add.mp member with before | rfl
  · exact peaceful.listeners other before
  · exact quiet

theorem Peaceful.withoutListener (peaceful : engine.Peaceful closable) (id : Nat) :
    ({ engine with listeners := engine.listeners.remove id } : Engine).Peaceful closable := by
  refine { peaceful with listeners := ?_ }
  exact fun other member => peaceful.listeners other (Subscribers.of_mem_all_remove member)

theorem keeps_attach (engine : Engine) : Keeps closable [] engine engine.attach := by
  rw [attach]
  split
  · exact keeps_refl engine
  · refine .of_same (fun peaceful => ?_) rfl rfl rfl rfl (Nat.le_refl _)
    have listening : Listener.Quiet closable (.registry engine.generation) := trivial
    exact { peaceful.withListener listening with }

theorem keeps_detach (engine : Engine) (attachment? : Option Nat) :
    Keeps closable [] engine (engine.detach attachment?) := by
  cases attachment? with
  | none => exact keeps_refl engine
  | some id => exact .of_same (·.withoutListener id) rfl rfl rfl rfl (Nat.le_refl _)

theorem keeps_watch (engine : Engine) (id : Nat) (table : String) {watcher : Watcher}
    (quiet : watcher.Quiet closable) :
    Keeps closable [] engine (engine.watch id table watcher) := by
  refine (keeps_attach engine).trans (.of_same ?_ rfl rfl rfl rfl (Nat.le_refl _))
  intro peaceful
  refine { peaceful with registry := ?_ }
  intro sought entry listed
  rcases Registry.of_mem_entriesOf_watch listed with rfl | before
  · exact quiet
  · exact peaceful.registry before

theorem keeps_leave (engine : Engine) (id : Nat) : Keeps closable [] engine (engine.leave id) := by
  refine .of_same (fun peaceful => ?_) rfl rfl rfl rfl (Nat.le_refl _)
  refine { peaceful with registry := ?_ }
  intro table entry listed
  exact peaceful.registry (Registry.of_mem_entriesOf_remove listed)

/-! ## Bindings and caches -/

theorem Peaceful.modifyBinding (peaceful : engine.Peaceful closable) (id : Nat)
    {change : Binding → Binding}
    (quiet : ∀ binding : Binding, binding.Quiet closable → (change binding).Quiet closable) :
    (engine.modifyBinding id change).Peaceful closable := by
  refine { peaceful with bindings := ?_ }
  intro sought binding held
  rcases of_get?_modifyBinding held with ⟨former, heldFormer, ⟨rfl, _⟩ | ⟨rfl, _⟩⟩
  · exact peaceful.bindings heldFormer
  · exact ⟨quiet former (peaceful.bindings heldFormer).1, (peaceful.bindings heldFormer).2⟩

/-- The cache that a name stands for is held under its number. -/
theorem held_of_cache?
    {name : String} {id : Nat} {cache : ItemCache} (found : engine.cache? name = some (id, cache)) :
    engine.caches.get? id = some cache := by
  simp only [cache?, Option.bind_eq_bind, Option.bind_eq_some_iff] at found
  rcases found with ⟨number, _, found, held, same⟩
  rcases Option.some.inj same with ⟨rfl, rfl⟩
  exact held

/-- A cache after a change of one is a changed one or was there before. -/
theorem of_get?_modifyCache
    {id sought : Nat} {change : ItemCache → ItemCache} {cache : ItemCache}
    (held : (engine.modifyCache id change).caches.get? sought = some cache) :
    ∃ former, engine.caches.get? sought = some former ∧
      (cache = former ∨ cache = change former) := by
  rw [modifyCache, OrderedMap.get?_modify] at held
  split at held
  · rcases Option.map_eq_some_iff.mp held with ⟨former, heldFormer, rfl⟩
    exact ⟨former, heldFormer, Or.inr rfl⟩
  · exact ⟨cache, held, Or.inl rfl⟩

theorem Peaceful.modifyCache (peaceful : engine.Peaceful closable) (id : Nat)
    {change : ItemCache → ItemCache}
    (quiet : ∀ cache : ItemCache, cache.Quiet closable → (change cache).Quiet closable) :
    (engine.modifyCache id change).Peaceful closable := by
  refine { peaceful with caches := ?_ }
  intro sought cache held
  rcases of_get?_modifyCache held with ⟨former, heldFormer, rfl | rfl⟩
  · exact peaceful.caches heldFormer
  · exact ⟨quiet former (peaceful.caches heldFormer).1, (peaceful.caches heldFormer).2⟩

theorem keeps_modifyBinding (engine : Engine) (id : Nat) {change : Binding → Binding}
    (quiet : engine.Peaceful closable →
      ∀ binding : Binding, binding.Quiet closable → (change binding).Quiet closable) :
    Keeps closable [] engine (engine.modifyBinding id change) :=
  .of_same (fun peaceful => peaceful.modifyBinding id (quiet peaceful)) rfl rfl rfl rfl
    (Nat.le_refl _)

theorem keeps_modifyCache (engine : Engine) (id : Nat) {change : ItemCache → ItemCache}
    (quiet : engine.Peaceful closable →
      ∀ cache : ItemCache, cache.Quiet closable → (change cache).Quiet closable) :
    Keeps closable [] engine (engine.modifyCache id change) :=
  .of_same (fun peaceful => peaceful.modifyCache id (quiet peaceful)) rfl rfl rfl rfl
    (Nat.le_refl _)

theorem quiet_cleared {subscribers : Subscribers Callback} :
    ∀ callback ∈ subscribers.clear.all, callback.Quiet closable :=
  List.forall_mem_nil _

theorem keeps_closeBinding (engine : Engine) (id : Nat) :
    Keeps closable [] engine (engine.closeBinding id) := by
  rw [closeBinding]
  split
  · exact keeps_refl engine
  · split
    · exact keeps_refl engine
    · refine (keeps_leave engine id).trans (keeps_modifyBinding _ id ?_)
      exact fun _ binding quiet => ⟨quiet.reads, quiet_cleared, List.forall_mem_nil _⟩

theorem keeps_closeCache (engine : Engine) (id : Nat) :
    Keeps closable [] engine (engine.closeCache id) := by
  rw [closeCache]
  split
  · exact keeps_refl engine
  · split
    · exact keeps_refl engine
    · refine (keeps_leave engine id).trans (keeps_modifyCache _ id ?_)
      exact fun _ cache _ => ⟨List.forall_mem_nil _, quiet_cleared⟩

theorem keeps_closeObject (engine : Engine) (id : Nat) :
    Keeps closable [] engine (engine.closeObject id) :=
  (keeps_closeBinding engine id).trans (keeps_closeCache _ id)

/-! ## Holding and giving up -/

theorem keeps_hold (engine : Engine) (held : Held) : Keeps closable [] engine (engine.hold held) :=
  .of_same (fun peaceful => { peaceful with }) rfl rfl rfl rfl (Nat.le_refl _)

theorem keeps_discard (engine : Engine) (id : Nat) :
    Keeps closable [] engine (engine.discard id) := by
  rw [discard]
  split
  · exact .of_same (fun peaceful => { peaceful with }) rfl rfl rfl rfl (Nat.le_refl _)
  · exact keeps_closeObject engine id

/-- Giving something up, if a name stood for it. -/
theorem keeps_elim (engine : Engine) (former? : Option Nat) {giveUp : Engine → Nat → Engine}
    (keeps : ∀ engine id, Keeps closable [] engine (giveUp engine id)) :
    Keeps closable [] engine (former?.elim engine (giveUp engine)) := by
  cases former? with
  | none => exact keeps_refl engine
  | some former => exact keeps engine former

theorem quiet_empty : Registry.Quiet closable .empty :=
  fun listed => absurd listed List.not_mem_nil

theorem keeps_renewRegistry (engine : Engine) :
    Keeps closable [] engine engine.renewRegistry := by
  rw [renewRegistry]
  split
  · refine .of_same (fun peaceful => ?_) rfl rfl rfl rfl (Nat.le_refl _)
    refine { peaceful with registry := quiet_empty, former := ?_ }
    intro generation former held
    dsimp only at held
    rw [OrderedMap.get?_insert] at held
    split at held
    · rcases Option.some.inj held with rfl
      exact peaceful.registry
    · exact peaceful.former held
  · refine (keeps_detach engine engine.attachment?).trans ?_
    exact .of_same (fun peaceful => { peaceful with registry := quiet_empty }) rfl rfl rfl rfl
      (Nat.le_refl _)

theorem Peaceful.withoutFormer (peaceful : engine.Peaceful closable) (generation : Nat) :
    ({ engine with former := engine.former.erase generation } : Engine).Peaceful closable := by
  refine { peaceful with former := ?_ }
  intro sought former held
  dsimp only at held
  rw [OrderedMap.get?_erase] at held
  split at held
  · contradiction
  · exact peaceful.former held

theorem keeps_settleGivenUp (engine : Engine) (held : Held) :
    Keeps closable [] engine (engine.settleGivenUp held) := by
  cases held with
  | registry generation =>
      rw [settleGivenUp]
      split
      · next former _ =>
          have same : (engine.detach former.attachment?).former = engine.former := by
            cases former.attachment? <;> rfl
          rw [← same]
          refine (keeps_detach engine former.attachment?).trans ?_
          exact .of_same (·.withoutFormer generation) rfl rfl rfl rfl (Nat.le_refl _)
      · exact keeps_refl engine
  | object id =>
      rw [settleGivenUp]
      split
      · refine (keeps_closeObject engine id).trans ?_
        exact .of_same (fun peaceful => { peaceful with }) rfl rfl rfl rfl (Nat.le_refl _)
      · exact keeps_refl engine

theorem keeps_letGo (engine : Engine) (held : Held) :
    Keeps closable [] engine (engine.letGo held) := by
  have released :
      Keeps closable [] engine { engine with holds := engine.holds.erase held } :=
    .of_same (fun peaceful => { peaceful with }) rfl rfl rfl rfl (Nat.le_refl _)
  rw [letGo]
  split
  · exact released
  · exact released.trans (keeps_settleGivenUp _ held)

theorem keeps_drop (engine : Engine) (name : String) :
    Keeps closable [] engine (engine.drop name) := by
  have forgotten :
      Keeps closable [] engine { engine with names := engine.names.erase name } := by
    intro peaceful
    have nothing : ∀ task ∈ ([] : List Task), task.isOfObject := List.forall_mem_nil _
    refine ⟨{ peaceful with }, .refl _, (List.append_nil _).symm, nothing, fun _ => rfl, ?_,
      Nat.le_refl _⟩
    intro sought id stands
    rw [handles] at stands ⊢
    dsimp only at stands
    rw [OrderedMap.get?_erase] at stands
    split at stands
    · contradiction
    · exact stands
  let handles := engine.handles name
  let left := handles.watch?.elim { engine with names := engine.names.erase name } fun id =>
    leave { engine with names := engine.names.erase name } id
  have leaves : Keeps closable [] { engine with names := engine.names.erase name } left :=
    keeps_elim _ _ keeps_leave
  let unbound := handles.binding?.elim left left.discard
  have unbinds : Keeps closable [] left unbound := keeps_elim _ _ keeps_discard
  have uncaches : Keeps closable [] unbound (handles.cache?.elim unbound unbound.discard) :=
    keeps_elim _ _ keeps_discard
  exact ((forgotten.trans leaves).trans unbinds).trans uncaches

/-! ## Requests of bindings and caches -/

/-- An operation that queues tasks of bindings and caches, if any. -/
def Requests (closable : Bool) (before after : Engine) : Prop :=
  ∃ added, Keeps closable added before after

theorem Keeps.requests {before after : Engine} {added : List Task}
    (keeps : Keeps closable added before after) : Requests closable before after :=
  ⟨added, keeps⟩

theorem Requests.trans {first middle last : Engine} (early : Requests closable first middle)
    (late : Requests closable middle last) : Requests closable first last := by
  rcases early with ⟨earlyAdded, early⟩
  rcases late with ⟨lateAdded, late⟩
  exact ⟨_, early.trans late⟩

theorem requests_schedule (engine : Engine) {executor : Nat} {job : Job}
    (object : ∀ clock, (Task.unit executor job clock).isOfObject)
    (numbered : engine.Peaceful closable → executor < engine.nextId) :
    Requests closable engine (engine.schedule executor job).2 := by
  rw [schedule]
  split
  · exact (keeps_refl engine).requests
  · refine ⟨[.unit executor job engine.clock.number], fun peaceful => ⟨?_, ?_⟩⟩
    · refine { peaceful with busy := ?_ }
      intro id busy
      rcases List.mem_cons.mp busy with rfl | before
      · exact numbered peaceful
      · exact peaceful.busy id before
    · refine ⟨.refl _, rfl, ?_, fun _ => rfl, fun stands => stands, Nat.le_refl _⟩
      intro task member
      rw [List.mem_singleton.mp member]
      exact object _

theorem requests_requestBinding (engine : Engine) (id : Nat) :
    Requests closable engine (engine.requestBinding id).2 := by
  rw [requestBinding]
  split
  · next binding held =>
      split
      · exact (keeps_refl engine).requests
      · exact requests_schedule engine (fun _ => rfl) fun peaceful => (peaceful.bindings held).2
  · exact (keeps_refl engine).requests

theorem requests_requestCache (engine : Engine) (id : Nat) :
    Requests closable engine (engine.requestCache id).2 := by
  rw [requestCache]
  split
  · next cache held =>
      split
      · exact (keeps_refl engine).requests
      · exact requests_schedule engine (fun _ => rfl) fun peaceful => (peaceful.caches held).2
  · exact (keeps_refl engine).requests

theorem requests_createBinding (engine : Engine) (table : String) {descriptor : Descriptor}
    (reads : descriptor.reads) :
    Requests closable engine (engine.createBinding table descriptor).2 := by
  have created :
      Keeps closable [] engine (engine.withBinding (.create table descriptor)) := by
    refine .of_same (fun peaceful => ?_) rfl rfl rfl rfl (Nat.le_succ _)
    refine { peaceful.grow (Nat.le_succ _) with bindings := ?_ }
    intro id binding held
    rw [withBinding, get?_insertBinding] at held
    split at held
    · next same =>
        rcases Option.some.inj held with rfl
        rw [same]
        exact ⟨⟨reads, List.forall_mem_nil _, List.forall_mem_nil _⟩,
          Nat.lt_succ_self _⟩
    · exact ⟨(peaceful.bindings held).1, Nat.lt_succ_of_lt (peaceful.bindings held).2⟩
  have watching : Watcher.Quiet closable (.binding engine.nextId) := trivial
  have watched := created.trans (keeps_watch _ engine.nextId table watching)
  exact watched.requests.trans (requests_requestBinding _ engine.nextId)

theorem requests_setDescriptor (engine : Engine) (id : Nat) (binding : Binding)
    {descriptor : Descriptor} (reads : engine.Peaceful closable → descriptor.reads) :
    Requests closable engine (engine.setDescriptor id binding descriptor).2 := by
  rw [setDescriptor]
  split
  · exact (keeps_refl engine).requests
  · have changed : Keeps closable [] engine
        (engine.modifyBinding id fun binding => { binding with descriptor := descriptor }) :=
      keeps_modifyBinding engine id fun peaceful binding quiet =>
        ⟨reads peaceful, quiet.consumers, quiet.waiting⟩
    exact changed.requests.trans (requests_requestBinding _ id)

theorem requests_setTable (engine : Engine) (id : Nat) (binding : Binding) (table : String) :
    Requests closable engine (engine.setTable id binding table).2 := by
  rw [setTable]
  split
  · exact (keeps_refl engine).requests
  · have changed : Keeps closable [] engine
        (engine.modifyBinding id fun binding => { binding with table := table }) :=
      keeps_modifyBinding engine id fun _ binding quiet =>
        ⟨quiet.reads, quiet.consumers, quiet.waiting⟩
    dsimp only
    split
    · exact changed.requests.trans (requests_requestBinding _ id)
    · have watching : Watcher.Quiet closable (.binding id) := trivial
      have watched := changed.trans (keeps_watch _ id table watching)
      exact watched.requests.trans (requests_requestBinding _ id)

theorem requests_fetch (engine : Engine) (id : Nat) (binding : Binding) (table? : Option String)
    {descriptor? : Option Descriptor} (reads : descriptor?.all Descriptor.reads)
    {callback : Callback} (quiet : callback.Quiet closable) :
    Requests closable engine (engine.fetch id binding table? descriptor? callback).2 := by
  rw [fetch]
  dsimp only
  split
  · exact (keeps_refl engine).requests
  · have waits : Keeps closable [] engine
        (engine.modifyBinding id fun former =>
          { former with
            waiting := former.waiting ++ [callback]
            descriptor :=
              (descriptor?.filter (!binding.descriptor.same ·)).getD former.descriptor }) := by
      apply keeps_modifyBinding
      intro _ former before
      refine ⟨?_, before.consumers, ?_⟩
      · show Descriptor.reads (Option.getD _ _)
        cases asked : descriptor?.filter (!binding.descriptor.same ·) with
        | none => exact before.reads
        | some descriptor =>
            rw [(Option.filter_eq_some_iff.mp asked).1] at reads
            exact reads
      · intro other member
        rcases List.mem_append.mp member with earlier | new
        · exact before.waiting other earlier
        · rw [List.mem_singleton.mp new]
          exact quiet
    split
    · exact waits.requests.trans (requests_setTable _ id binding _)
    · exact waits.requests.trans (requests_requestBinding _ id)

theorem keeps_createCache (engine : Engine) (table idField : String) :
    Keeps closable [] engine (engine.createCache table idField).2 := by
  have created : Keeps closable [] engine
      { engine.allocate.2 with
        caches := engine.caches.insert engine.nextId (.create table idField) } := by
    refine .of_same (fun peaceful => ?_) rfl rfl rfl rfl (Nat.le_succ _)
    refine { peaceful.grow (Nat.le_succ _) with caches := ?_ }
    intro id cache held
    dsimp only at held
    rw [OrderedMap.get?_insert] at held
    simp only [Std.compare_eq_iff_eq] at held
    split at held
    · next same =>
        rcases Option.some.inj held with rfl
        rw [same]
        exact ⟨⟨List.forall_mem_nil _, List.forall_mem_nil _⟩,
          Nat.lt_succ_self _⟩
    · exact ⟨(peaceful.caches held).1, Nat.lt_succ_of_lt (peaceful.caches held).2⟩
  have watching : Watcher.Quiet closable (.cache engine.nextId) := trivial
  exact created.trans (keeps_watch _ engine.nextId table watching)

theorem requests_trackItem (engine : Engine) (id : Nat) (item : Value)
    {callback? : Option Callback} (quiet : ∀ callback ∈ callback?, callback.Quiet closable) :
    Requests closable engine (engine.trackItem id item callback?) := by
  have tracks : Keeps closable [] engine
      (engine.modifyCache id fun cache =>
        { cache with
          tracked := cache.tracked.add item
          waiting :=
            cache.waiting ++ callback?.toList.map fun callback => (item, callback) }) := by
    apply keeps_modifyCache
    intro _ cache before
    refine ⟨?_, before.consumers⟩
    intro waiting member
    rcases List.mem_append.mp member with earlier | new
    · exact before.waiting waiting earlier
    · rcases List.mem_map.mp new with ⟨callback, among, rfl⟩
      exact quiet callback (Option.mem_toList.mp among)
  exact tracks.requests.trans (requests_requestCache _ id)

end Engine

end LiveTable
