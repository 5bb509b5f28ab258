import LiveTable.Engine.Holding
import LiveTable.Engine.Machine

/-!
# Calls and deliveries

A callback that is called is noted; on its first calls its commands are run at once,
and the reply to each is noted.

Flushing the feed delivers the batches of the outbox, oldest first, to every listener
registered at that time, and goes on until the outbox is empty; a flush within a flush
does nothing.  The registry, as a listener, visits the tables that a batch touches in
order of first appearance, and alerts the watchers that a table has at that time.  An alerted
binding or cache requests an execution.

A registry is held while it dispatches, and by every command that flushes or dispatches and
began with it.  One that is replaced meanwhile goes on with the watchers it had, and listens,
until it is let go.
-/

set_option autoImplicit false

namespace LiveTable

/-- The commands of a callback, each followed by the note of its reply. -/
def Reaction.script (reaction : Reaction Command) : List Activity :=
  reaction.commands.flatMap fun command => [.perform command, .note reaction.label]

namespace Machine

/-- Calls a callback. -/
def call (machine : Machine) (callback : Callback) (notice : Notice) : Machine :=
  let machine := machine.note (.called callback notice)
  let count := (machine.engine.calls.get? callback.id).getD 0
  if count < callback.reaction.times then
    let calls := machine.engine.calls.insert callback.id (count + 1)
    (machine.become { machine.engine with calls := calls }).next callback.reaction.script
  else machine

/-- Begins to deliver the batches of the outbox. -/
def flush (machine : Machine) : Machine :=
  if machine.engine.isFlushing then machine.say (.number 0)
  else (machine.become { machine.engine with isFlushing := true }).next [.deliver 0]

/-- Delivers the next batch, or ends the delivery; the reply is the number of batches. -/
def deliver (machine : Machine) (delivered : Nat) : Machine :=
  let engine := machine.engine
  match engine.store.outbox with
  | [] => machine.conclude (.number delivered, { engine with isFlushing := false })
  | batch :: rest =>
    let engine := { engine with store := { engine.store with outbox := rest } }
    (machine.become engine).next
      (engine.listeners.all.map (.tell · batch) ++ [.deliver (delivered + 1)])

/-- Puts activities in front of the agenda, and holds something until they are done. -/
def holding (machine : Machine) (held : Held) (activities : List Activity) : Machine :=
  (machine.become (machine.engine.hold held)).next (activities ++ [.letGo held])

/-- Passes a batch to a listener. -/
def tell (machine : Machine) (listener : Listener) (batch : List Change) : Machine :=
  match listener with
  | .registry generation =>
    match machine.engine.registryOf? generation with
    | some _ => machine.holding (.registry generation) [.dispatch generation batch]
    | none => machine
  | .callback callback => machine.next [.call callback (.changes batch)]

/-- The tables that changes touch, in order of first appearance, without those seen before. -/
def touchedAfter (seen : List String) : List Change → List String
  | [] => []
  | change :: rest =>
    if seen.contains change.table then touchedAfter seen rest
    else change.table :: touchedAfter (change.table :: seen) rest

/-- Visits the tables that a batch touches. -/
def dispatch (machine : Machine) (generation : Nat) (batch : List Change) : Machine :=
  machine.next ((touchedAfter [] batch).map (.visit generation ·))

/-- Alerts the watchers of a table. -/
def visit (machine : Machine) (generation : Nat) (table : String) : Machine :=
  match machine.engine.registryOf? generation with
  | some registry => machine.next ((registry.watchersOf table).map (.alert · table))
  | none => machine

end Machine

namespace Engine

/-- Requests an execution of a binding; one that is closed rejects it. -/
def requestBinding (engine : Engine) (id : Nat) : Submission × Engine :=
  match engine.bindings.get? id with
  | some binding => if binding.isClosed then (.rejected, engine) else engine.schedule id .binding
  | none => (.rejected, engine)

/-- Requests a fetch of all that a cache tracks; one that is closed rejects it. -/
def requestCache (engine : Engine) (id : Nat) : Submission × Engine :=
  match engine.caches.get? id with
  | some cache => if cache.isClosed then (.rejected, engine) else engine.schedule id .cache
  | none => (.rejected, engine)

end Engine

namespace Machine

/-- Alerts a watcher of a table. -/
def alert (machine : Machine) (watcher : Watcher) (table : String) : Machine :=
  match watcher with
  | .binding id => machine.become (machine.engine.requestBinding id).2
  | .cache id => machine.become (machine.engine.requestCache id).2
  | .callback callback => machine.next [.call callback (.table table)]

/-- Carries out a command on the feed. -/
def performFeed (machine : Machine) : FeedCommand Command → Machine
  | .listen reaction =>
    let (callback, engine) := machine.engine.register reaction
    let (id, listeners) := engine.listeners.add (.callback callback)
    machine.conclude (.number id, { engine with listeners := listeners })
  | .unlisten id =>
    let listeners := machine.engine.listeners
    machine.conclude
      (.flag (listeners.has id), { machine.engine with listeners := listeners.remove id })
  | .publish batch =>
    let store := machine.engine.store.publish batch
    machine.conclude (.number store.outbox.length, { machine.engine with store := store })
  | .flush => machine.holding (.registry machine.engine.generation) [.flush]

/-- Carries out a command on the registry of watchers. -/
def performRegistry (machine : Machine) : RegistryCommand Command → Machine
  | .watch id table reaction =>
    let (callback, engine) := machine.engine.register reaction
    machine.conclude (.nothing, engine.watch id table (.callback callback))
  | .leave id =>
    machine.conclude (.flag (machine.engine.registry.has id), machine.engine.leave id)
  | .dispatch batch =>
    let generation := machine.engine.generation
    machine.holding (.registry generation) [.dispatch generation batch, .answer .nothing]
  | .clear => machine.conclude (.nothing, { machine.engine with registry := .empty })
  | .giveUp =>
    let engine := machine.engine.renewRegistry
    machine.conclude (.number engine.listeners.size, engine)
  | .renew => machine.conclude (.nothing, machine.engine.renewRegistry)
  | .number =>
    let (id, engine) := machine.engine.allocate
    machine.conclude (.flag (decide (id < engine.nextId)), engine)

end Machine

end LiveTable
