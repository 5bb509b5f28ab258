import LiveTable.Engine.Monitor
import LiveTable.Engine.Registry
import LiveTable.Engine.Reply
import LiveTable.Engine.Subscribers

/-!
# Engines

An engine is a store with a queue of tasks, listeners on its feed of committed
changes, a registry of those who watch its tables, and the live objects that it keeps
up to date: bindings, which hold the result of a query, and item caches, which hold
the records of a set of ids.

Units of work run one at a time per executor.  An executor is busy from the moment it is
given a unit until that unit has run; what is handed to it in between is
rejected.  Bindings, caches and requests have executors of their own, known by their
own numbers.
-/

set_option autoImplicit false

namespace LiveTable

/-- Who listens to the feed. -/
inductive Listener where
  /-- The registry of a generation. -/
  | registry (generation : Nat)
  | callback (callback : Callback)

/-- Who watches a table. -/
inductive Watcher where
  | binding (id : Nat)
  | cache (id : Nat)
  | callback (callback : Callback)

/-- For whom a unit runs, and so what it does; objects have the number of their executor. -/
inductive Job where
  /-- For the binding: its query, as it is when the unit runs. -/
  | binding
  /-- For the cache: the records of all ids tracked when the unit runs. -/
  | cache
  /-- For the request that runs once. -/
  | request (unit : WorkUnit)
  /-- For a callback; without a unit nothing is run. -/
  | callback (unit? : Option WorkUnit) (callback : Callback) (reportsFailure : Bool)

/-- What waits in the queue. -/
inductive Task where
  /-- A unit of an executor, and the number of the clock that its operations move. -/
  | unit (executor : Nat) (job : Job) (clock : Nat)
  | routine (routine : Routine)

/-- A live query. -/
structure Binding where
  table : String
  descriptor : Descriptor
  /-- The result of the last execution that succeeded. -/
  value? : Option QueryResult
  /-- How often the value was replaced. -/
  version : Nat
  consumers : Subscribers Callback
  /-- Callbacks that wait for the next execution. -/
  waiting : List Callback
  isClosed : Bool

/-- A live set of records, picked by id. -/
structure ItemCache where
  table : String
  idField : String
  tracked : ValueSet
  items : Items
  /-- Callbacks that wait for the next fetch, each with the id that it is for. -/
  waiting : List (Value × Callback)
  consumers : Subscribers Callback
  isClosed : Bool

/-- What a name stands for. -/
structure Handles where
  request? : Option Nat
  executor? : Option Nat
  watch? : Option Nat
  binding? : Option Nat
  cache? : Option Nat
deriving Repr, DecidableEq

/-- A name that stands for nothing. -/
def Handles.none : Handles :=
  ⟨.none, .none, .none, .none, .none⟩

/-- A registry that was replaced while it was held, and the number under which it listens. -/
structure FormerRegistry where
  registry : Registry Watcher
  attachment? : Option Nat

/-- What a command can hold while it is under way. -/
inductive Held where
  | registry (generation : Nat)
  /-- The binding or the cache of a number. -/
  | object (id : Nat)
deriving Repr, DecidableEq

/-- A clock that is moved by hand.  The clocks that follow each other are numbered. -/
structure Clock where
  number : Nat
  now : Binary64
deriving Repr, DecidableEq

/-- A store with everything that is kept up to date with it. -/
structure Engine where
  config : Config
  store : Store
  listeners : Subscribers Listener
  /-- Whether batches are being delivered. -/
  isFlushing : Bool
  registry : Registry Watcher
  /-- The number under which the registry listens, once it does. -/
  attachment? : Option Nat
  /-- How many registries there were before. -/
  generation : Nat
  /-- What is held, once for each holder. -/
  holds : List Held
  /-- Former registries by generation, each until its last holder lets it go. -/
  former : OrderedMap Nat FormerRegistry
  /-- The bindings and caches that were given up, each until its last holder lets it go. -/
  discarded : List Nat
  queue : List Task
  /-- The executors that have a unit in the queue. -/
  busy : List Nat
  bindings : OrderedMap Nat Binding
  caches : OrderedMap Nat ItemCache
  /-- The outcomes of requests that have run and were not taken. -/
  outcomes : OrderedMap Nat (Except Error Outcome)
  names : OrderedMap String Handles
  monitor : Monitor
  isMonitoring : Bool
  clock : Clock
  /-- How often callbacks were called, up to the calls on which they run commands. -/
  calls : OrderedMap Nat Nat
  nextId : Nat

namespace Engine

/-- An engine in which nothing has happened. -/
def create (name : String) (schema : StoreSchema) (config : Config) : Engine where
  config := config
  store := .ofSchema name schema
  listeners := .empty
  isFlushing := false
  registry := .empty
  attachment? := none
  generation := 0
  holds := []
  former := .empty
  discarded := []
  queue := []
  busy := []
  bindings := .empty
  caches := .empty
  outcomes := .empty
  names := .empty
  monitor := .fresh config.recentWindow
  isMonitoring := config.monitor
  clock := ⟨0, Binary64.zero false⟩
  calls := .empty
  nextId := 1

/-- Gives out a number. -/
def allocate (engine : Engine) : Nat × Engine :=
  (engine.nextId, { engine with nextId := engine.nextId + 1 })

/-- Registers a reaction. -/
def register (engine : Engine) (reaction : Reaction Command) : Callback × Engine :=
  let (id, engine) := engine.allocate
  (⟨id, reaction⟩, engine)

/-! ## Executors and the queue -/

/-- Whether an executor has a unit. -/
def isBusy (engine : Engine) (executor : Nat) : Bool :=
  engine.busy.contains executor

/-- Puts a task into the queue. -/
def enqueue (engine : Engine) (task : Task) : Engine :=
  { engine with queue := engine.queue ++ [task] }

/-- Hands a unit to an executor; its operations move the clock that there is now. -/
def schedule (engine : Engine) (executor : Nat) (job : Job) : Submission × Engine :=
  if engine.isBusy executor then (.rejected, engine)
  else
    (.scheduled,
      { engine.enqueue (.unit executor job engine.clock.number) with
        busy := executor :: engine.busy })

/-- Frees an executor. -/
def release (engine : Engine) (executor : Nat) : Engine :=
  { engine with busy := engine.busy.filter (· != executor) }

/-! ## The clock -/

/--
Moves the clock of a number by the time that operations took.  A clock that was replaced
is read by nobody, so moving it changes nothing.
-/
def elapse (engine : Engine) (clock : Nat) (answers : List Answer) : Engine :=
  if engine.clock.number = clock then
    { engine with clock := ⟨clock, Answer.clockAfter engine.clock.now answers⟩ }
  else engine

/-! ## Watching tables -/

/-- Lets the registry listen to the feed, if it does not yet. -/
def attach (engine : Engine) : Engine :=
  match engine.attachment? with
  | some _ => engine
  | none =>
    let (id, listeners) := engine.listeners.add (.registry engine.generation)
    { engine with listeners := listeners, attachment? := some id }

/-- Lets a number watch a table. -/
def watch (engine : Engine) (id : Nat) (table : String) (watcher : Watcher) : Engine :=
  let engine := engine.attach
  { engine with registry := engine.registry.watch id table watcher }

/-- Lets a number watch nothing. -/
def leave (engine : Engine) (id : Nat) : Engine :=
  { engine with registry := engine.registry.remove id }

/-- Removes the listener of a number, if there is a number. -/
def detach (engine : Engine) (attachment? : Option Nat) : Engine :=
  match attachment? with
  | some id => { engine with listeners := engine.listeners.remove id }
  | none => engine

/-- The registry of a generation, as long as it is there. -/
def registryOf? (engine : Engine) (generation : Nat) : Option (Registry Watcher) :=
  if generation = engine.generation then some engine.registry
  else (engine.former.get? generation).map FormerRegistry.registry

/-! ## Names -/

/-- What a name stands for. -/
def handles (engine : Engine) (name : String) : Handles :=
  (engine.names.get? name).getD .none

/-- Changes what a name stands for. -/
def rename (engine : Engine) (name : String) (change : Handles → Handles) : Engine :=
  { engine with names := engine.names.insert name (change (engine.handles name)) }

/-! ## Bindings and caches -/

/-- Changes a binding. -/
def modifyBinding (engine : Engine) (id : Nat) (change : Binding → Binding) : Engine :=
  { engine with bindings := engine.bindings.modify id change }

/-- Changes a cache. -/
def modifyCache (engine : Engine) (id : Nat) (change : ItemCache → ItemCache) : Engine :=
  { engine with caches := engine.caches.modify id change }

/-- The binding of a name, with its number. -/
def binding? (engine : Engine) (name : String) : Option (Nat × Binding) := do
  let id ← (engine.handles name).binding?
  let binding ← engine.bindings.get? id
  pure (id, binding)

/-- The cache of a name, with its number. -/
def cache? (engine : Engine) (name : String) : Option (Nat × ItemCache) := do
  let id ← (engine.handles name).cache?
  let cache ← engine.caches.get? id
  pure (id, cache)

/-! ## Statistics -/

/-- Counts of the registry and, while transactions are timed, of the monitor. -/
def stats (engine : Engine) : EngineStats :=
  ⟨engine.registry.stats, if engine.isMonitoring then some engine.monitor.stats else none⟩

end Engine

end LiveTable
