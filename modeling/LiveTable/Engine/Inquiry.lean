import LiveTable.Engine.Basic
import LiveTable.Items.Lookup

/-!
# Inquiries

What can be read off an engine.  A name that stands for nothing is answered with
nothing.
-/

set_option autoImplicit false

namespace LiveTable

namespace Engine

/-- What can be seen of the engine as a whole. -/
def view (engine : Engine) : EngineView :=
  ⟨engine.store.name, engine.store.isOpen, engine.queue.length, engine.isMonitoring,
    engine.config⟩

/-- What can be seen of a binding. -/
def bindingView (engine : Engine) (id : Nat) (binding : Binding) : BindingView :=
  ⟨binding.value?, binding.version, engine.isBusy id, binding.isClosed, binding.table⟩

/-- What can be seen of a cache. -/
def cacheView (engine : Engine) (id : Nat) (cache : ItemCache) : CacheView :=
  ⟨cache.items, cache.tracked, engine.isBusy id⟩

/-- Answers about a binding, if the name stands for one. -/
def askBinding (engine : Engine) (name : String) (ask : Nat → Binding → Reply) : Reply :=
  match engine.binding? name with
  | some (id, binding) => ask id binding
  | none => .nothing

/-- Answers about a cache, if the name stands for one. -/
def askCache (engine : Engine) (name : String) (ask : Nat → ItemCache → Reply) : Reply :=
  match engine.cache? name with
  | some (id, cache) => ask id cache
  | none => .nothing

/-- Answers an inquiry. -/
def answer (engine : Engine) : Inquiry → Reply
  | .listeners => .number engine.listeners.size
  | .outbox => .number engine.store.outbox.length
  | .tableOf id => .table (engine.registry.tableOf? id)
  | .registry => .registry engine.registry.stats engine.attachment?.isSome
  | .info => .engine engine.view
  | .queue => .number engine.queue.length
  | .stats => .stats engine.stats
  | .settled name =>
    match (engine.handles name).request? with
    | some id => .settled (engine.outcomes.contains id)
    | none => .nothing
  | .busy name =>
    match (engine.handles name).executor? with
    | some id => .flag (engine.isBusy id)
    | none => .nothing
  | .binding name => engine.askBinding name fun id binding =>
      .binding (engine.bindingView id binding)
  | .bindingIs name descriptor => engine.askBinding name fun _ binding =>
      .flag (binding.descriptor.same (descriptor.issued engine.nextId))
  | .bindingCount name => engine.askBinding name fun _ binding =>
      match binding.value?.bind QueryResult.count? with
      | some count => .number count
      | none => .nothing
  | .cache name => engine.askCache name fun id cache => .cache (engine.cacheView id cache)
  | .item name id => engine.askCache name fun _ cache => .record (cache.items.find? id)

end Engine

end LiveTable
