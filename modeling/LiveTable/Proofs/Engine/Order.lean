import LiveTable.Engine.Holding
import LiveTable.Engine.Unit
import LiveTable.Proofs.Engine.Registry
import LiveTable.Proofs.Store.Announcing

/-!
# Engines in order

What holds of an engine between any two activities, as long as it is asked nothing but
requests that run once, bindings, and the opening and closing of its store:

* numbers that have been given out lie below the next one;
* a busy binding has a unit in the queue, and an open binding watches its table;
* the registry listens as soon as it has a number to listen under;
* callbacks that are registered do not ask for anything else either.

`Engine.Orderly` says this of the parts of an engine, `Engine.Watchful` of its
bindings.  Each operation on engines keeps them.
-/

set_option autoImplicit false

namespace LiveTable

/-! ## What is asked -/

/-- The reaction that a command on bindings registers. -/
def BindingCommand.reaction? {Command : Type} :
    BindingCommand Command → Option (Reaction Command)
  | .fetch _ _ _ reaction => some reaction
  | .subscribe _ reaction => some reaction
  | _ => none

/-- Whether a command on requests is about requests that run once. -/
def RequestCommand.isOneShot : RequestCommand → Bool
  | .submit _ _ request => request.isOneShot
  | _ => true

/-- Commands that keep bindings alive, as do all that their reactions ask in turn. -/
inductive Command.Live : Command → Prop where
  | inquire (inquiry : Inquiry) : Live (.inquire inquiry)
  | drain : Live (.queue .drain)
  | run : Live .run
  | ensureOpen : Live (.store .ensureOpen)
  | close : Live (.store .close)
  | block (reason? : Option String) : Live (.store (.block reason?))
  | request {command : RequestCommand} (oneShot : command.isOneShot) : Live (.request command)
  | binding {command : BindingCommand Command}
      (reacts : ∀ reaction, command.reaction? = some reaction →
        ∀ inner ∈ reaction.commands, Live inner) :
      Live (.binding command)

/-- A reaction whose commands are live. -/
def Reaction.Live (reaction : Reaction Command) : Prop :=
  ∀ command ∈ reaction.commands, command.Live

/-- A callback whose reaction is live. -/
def Callback.Live (callback : Callback) : Prop :=
  callback.reaction.Live

/-- A listener that calls nothing but live callbacks. -/
def Listener.Live : Listener → Prop
  | .registry _ => True
  | .callback target => target.Live

/-- A watcher that calls nothing but live callbacks. -/
def Watcher.Live : Watcher → Prop
  | .callback target => target.Live
  | _ => True

/-- A task of a binding, or of a request that runs once. -/
def Task.Live : Task → Prop
  | .unit _ .binding _ => True
  | .unit _ (.request asked) _ => asked.request.isOneShot
  | _ => False

/-- A binding that calls nothing but live callbacks. -/
structure Binding.Live (binding : Binding) : Prop where
  consumers : ∀ callback ∈ binding.consumers.all, callback.Live
  waiting : ∀ callback ∈ binding.waiting, callback.Live

/-- Two states of a binding ask the same of the same table and hold the same. -/
structure Binding.SameQuery (first second : Binding) : Prop where
  table : first.table = second.table
  descriptor : first.descriptor = second.descriptor
  value? : first.value? = second.value?

namespace Engine

/-! ## Order -/

/-- A unit of the binding waits in the queue. -/
def Awaits (engine : Engine) (id : Nat) : Prop :=
  ∃ clock, Task.unit id .binding clock ∈ engine.queue

/-- The parts of an engine fit together. -/
structure Orderly (engine : Engine) : Prop where
  store : engine.store.Sound
  numbered {id : Nat} {binding : Binding} (held : engine.bindings.get? id = some binding) :
    id < engine.nextId
  busy {id : Nat} (busy : id ∈ engine.busy) : id < engine.nextId
  queued {id : Nat} {binding : Binding} (held : engine.bindings.get? id = some binding)
    (busy : id ∈ engine.busy) : engine.Awaits id
  tasks : ∀ task ∈ engine.queue, task.Live
  attached : engine.attachment?.isSome → .registry engine.generation ∈ engine.listeners.all
  listeners : ∀ listener ∈ engine.listeners.all, listener.Live
  watchers {table : String} {entry : Nat × Watcher}
    (listed : entry ∈ engine.registry.entriesOf table) : entry.2.Live
  bindings {id : Nat} {binding : Binding} (held : engine.bindings.get? id = some binding) :
    binding.Live
  caches : engine.caches = .empty
  former : engine.former = .empty

/-- The binding of a number watches a table. -/
structure Watches (engine : Engine) (id : Nat) (table : String) : Prop where
  attached : engine.attachment?.isSome
  listed : (id, .binding id) ∈ engine.registry.entriesOf table

/-- Every open binding watches its table. -/
def Watchful (engine : Engine) : Prop :=
  ∀ {id : Nat} {binding : Binding}, engine.bindings.get? id = some binding →
    binding.isClosed = false → engine.Watches id binding.table

/-- An engine whose parts fit together and whose open bindings watch their tables. -/
structure Regular (engine : Engine) : Prop where
  orderly : engine.Orderly
  watchful : engine.Watchful

theorem create_regular (name : String) (schema : StoreSchema) (config : Config) :
    (create name schema config).Regular where
  orderly := {
    store := ⟨Tables.empty_wellFormed, fun _ => rfl⟩
    numbered := fun held => nomatch held
    busy := fun busy => nomatch busy
    queued := fun held => nomatch held
    tasks := fun _ member => nomatch member
    attached := fun attached => nomatch attached
    listeners := fun _ member => nomatch member
    watchers := fun listed => nomatch listed
    bindings := fun held => nomatch held
    caches := rfl
    former := rfl }
  watchful := fun held => nomatch held

/-! ## Proceeding -/

/--
No task and no batch is lost, contents change only where a batch says so, and every
open binding was open before with the same query and the same value, unless a unit of
it waits.
-/
structure Advances (before after : Engine) : Prop where
  store : before.store.Announces after.store
  generation : after.generation = before.generation
  queue : ∀ task ∈ before.queue, task ∈ after.queue
  bindings {id : Nat} {binding : Binding} (held : after.bindings.get? id = some binding)
    (isOpen : binding.isClosed = false) :
    after.Awaits id ∨ ∃ former, before.bindings.get? id = some former ∧
      former.isClosed = false ∧ former.SameQuery binding

/-- A regular engine stays regular and advances. -/
def Proceeds (before after : Engine) : Prop :=
  before.Regular → after.Regular ∧ before.Advances after

theorem Awaits.mono
    {before after : Engine} {id : Nat} (awaits : before.Awaits id)
    (queue : ∀ task ∈ before.queue, task ∈ after.queue) :
    after.Awaits id := by
  rcases awaits with ⟨clock, member⟩
  exact ⟨clock, queue _ member⟩

theorem Advances.trans
    {first middle last : Engine}
    (early : first.Advances middle) (late : middle.Advances last) :
    first.Advances last where
  store := early.store.trans late.store
  generation := late.generation.trans early.generation
  queue task member := late.queue task (early.queue task member)
  bindings held isOpen := by
    rcases late.bindings held isOpen with awaits | ⟨between, heldBetween, openBetween, same⟩
    · exact Or.inl awaits
    · rcases early.bindings heldBetween openBetween with awaits | ⟨former, heldFormer, rest⟩
      · exact Or.inl (awaits.mono late.queue)
      · rcases rest with ⟨openFormer, sameFormer⟩
        refine Or.inr ⟨former, heldFormer, openFormer, ?_⟩
        exact ⟨sameFormer.table.trans same.table, sameFormer.descriptor.trans same.descriptor,
          sameFormer.value?.trans same.value?⟩

theorem Proceeds.trans
    {first middle last : Engine}
    (early : first.Proceeds middle) (late : middle.Proceeds last) :
    first.Proceeds last := by
  intro regular
  rcases early regular with ⟨regularMiddle, advancesEarly⟩
  rcases late regularMiddle with ⟨regularLast, advancesLate⟩
  exact ⟨regularLast, advancesEarly.trans advancesLate⟩

/-- Bindings that are what they were, or were open with the same query, await nothing new. -/
theorem Advances.of_bindings
    {before after : Engine} (store : before.store.Announces after.store)
    (generation : after.generation = before.generation)
    (queue : ∀ task ∈ before.queue, task ∈ after.queue)
    (bindings : after.bindings = before.bindings) :
    before.Advances after where
  store := store
  generation := generation
  queue := queue
  bindings held isOpen := by
    rw [bindings] at held
    exact Or.inr ⟨_, held, isOpen, rfl, rfl, rfl⟩

/-! ## Parts that do not matter -/

/-- What order is about, and so an engine without its names, its times and its callers. -/
structure Essence where
  store : Store
  bindings : OrderedMap Nat Binding
  queue : List Task
  busy : List Nat
  listeners : Subscribers Listener
  registry : Registry Watcher
  attachment? : Option Nat
  generation : Nat
  caches : OrderedMap Nat ItemCache
  former : OrderedMap Nat FormerRegistry

def essence (engine : Engine) : Essence where
  store := engine.store
  bindings := engine.bindings
  queue := engine.queue
  busy := engine.busy
  listeners := engine.listeners
  registry := engine.registry
  attachment? := engine.attachment?
  generation := engine.generation
  caches := engine.caches
  former := engine.former

/-- Two engines do not differ in what order is about; numbers may have been given out. -/
structure SameWork (before after : Engine) : Prop where
  essence : after.essence = before.essence
  nextId : before.nextId ≤ after.nextId

namespace SameWork

variable {before after : Engine}

theorem of_essence
    (essence : after.essence = before.essence) (nextId : after.nextId = before.nextId) :
    before.SameWork after :=
  ⟨essence, Nat.le_of_eq nextId.symm⟩

theorem store (same : before.SameWork after) : after.store = before.store :=
  congrArg Essence.store same.essence

theorem bindings (same : before.SameWork after) : after.bindings = before.bindings :=
  congrArg Essence.bindings same.essence

theorem queue (same : before.SameWork after) : after.queue = before.queue :=
  congrArg Essence.queue same.essence

theorem generation (same : before.SameWork after) : after.generation = before.generation :=
  congrArg Essence.generation same.essence

/-- Whether an engine is regular shows in its essence and in the next number. -/
theorem regular (same : before.SameWork after) (regular : before.Regular) : after.Regular := by
  rcases regular with ⟨orderly, watchful⟩
  have busy : after.busy = before.busy := congrArg Essence.busy same.essence
  have listeners : after.listeners = before.listeners := congrArg Essence.listeners same.essence
  have registry : after.registry = before.registry := congrArg Essence.registry same.essence
  have attachment : after.attachment? = before.attachment? :=
    congrArg Essence.attachment? same.essence
  constructor
  · constructor
    · rw [same.store]
      exact orderly.store
    · rw [same.bindings]
      exact fun held => Nat.lt_of_lt_of_le (orderly.numbered held) same.nextId
    · rw [busy]
      exact fun busy => Nat.lt_of_lt_of_le (orderly.busy busy) same.nextId
    · rw [same.bindings, busy]
      intro id binding held busy
      apply (orderly.queued held busy).mono
      rw [same.queue]
      exact fun _ member => member
    · rw [same.queue]
      exact orderly.tasks
    · rw [attachment, same.generation, listeners]
      exact orderly.attached
    · rw [listeners]
      exact orderly.listeners
    · rw [registry]
      exact orderly.watchers
    · rw [same.bindings]
      exact orderly.bindings
    · have caches := congrArg Essence.caches same.essence
      exact caches.trans orderly.caches
    · have former := congrArg Essence.former same.essence
      exact former.trans orderly.former
  · intro id binding held isOpen
    rw [same.bindings] at held
    rcases watchful held isOpen with ⟨attached, listed⟩
    constructor
    · rw [attachment]
      exact attached
    · rw [registry]
      exact listed

theorem proceeds (same : before.SameWork after) : before.Proceeds after := by
  intro regular
  refine ⟨same.regular regular, .of_bindings ?_ same.generation ?_ same.bindings⟩
  · rw [same.store]
    exact .of_unchanged rfl rfl
  · rw [same.queue]
    exact fun _ member => member

end SameWork

variable {engine : Engine}

theorem proceeds_refl (engine : Engine) : engine.Proceeds engine :=
  SameWork.proceeds (.of_essence rfl rfl)

theorem proceeds_allocate (engine : Engine) : engine.Proceeds engine.allocate.2 :=
  SameWork.proceeds ⟨rfl, Nat.le_succ _⟩

theorem proceeds_register (engine : Engine) (reaction : Reaction Command) :
    engine.Proceeds (engine.register reaction).2 :=
  SameWork.proceeds ⟨rfl, Nat.le_succ _⟩

theorem proceeds_rename (engine : Engine) (name : String) (change : Handles → Handles) :
    engine.Proceeds (engine.rename name change) :=
  SameWork.proceeds (.of_essence rfl rfl)

theorem proceeds_hold (engine : Engine) (held : Held) : engine.Proceeds (engine.hold held) :=
  SameWork.proceeds (.of_essence rfl rfl)

theorem Regular.withStore
    (regular : engine.Regular) {store : Store} (sound : store.Sound) :
    ({ engine with store := store } : Engine).Regular where
  orderly := { regular.orderly with store := sound }
  watchful held isOpen :=
    ⟨(regular.watchful held isOpen).attached, (regular.watchful held isOpen).listed⟩

/-- A store that announces what has changed may take the place of the one before. -/
theorem proceeds_store
    {store : Store} (kept : engine.store.Sound → store.Sound ∧ engine.store.Announces store) :
    engine.Proceeds { engine with store := store } := by
  intro regular
  rcases kept regular.orderly.store with ⟨sound, announces⟩
  exact ⟨regular.withStore sound, .of_bindings announces rfl (fun _ member => member) rfl⟩

end Engine

end LiveTable
