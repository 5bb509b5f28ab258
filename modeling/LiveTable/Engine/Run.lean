import LiveTable.Engine.Binding
import LiveTable.Engine.Executor
import LiveTable.Engine.ItemCache
import LiveTable.Engine.Pending

/-!
# Carrying out commands

What each command does, and how an engine carries one out: the machine runs until its
agenda is empty.  Reactions can keep a machine at work for long, so a run has a limit
on the number of its steps; within the limit it is the same run whatever the limit.
-/

set_option autoImplicit false

namespace LiveTable

namespace Engine

/-- Gives up everything that a name stands for. -/
def drop (engine : Engine) (name : String) : Engine :=
  let handles := engine.handles name
  let engine := { engine with names := engine.names.erase name }
  let engine := handles.watch?.elim engine engine.leave
  let engine := handles.binding?.elim engine engine.discard
  handles.cache?.elim engine engine.discard

/-- Runs operations on the store in one transaction, which is neither timed nor delivered. -/
def transactDirectly (engine : Engine) (mode : AccessMode) (table : String)
    (steps : List OperationStep) : Except OperationFailure (List Answer) × Engine :=
  let (outcome, store) := engine.store.performAll mode table steps
  let engine := { engine with store := store }
  (outcome, engine.elapse engine.clock.number (OperationFailure.answersOf outcome))

end Engine

namespace Machine

/-- Carries out a command on watches. -/
def performWatch (machine : Machine) : WatchCommand Command → Machine
  | .create name table reaction =>
    let former? := (machine.engine.handles name).watch?
    let (callback, engine) := machine.engine.register reaction
    let id := callback.id
    let engine := engine.watch id table (.callback callback)
    let engine := engine.rename name fun handles => { handles with watch? := some id }
    let engine := former?.elim engine engine.leave
    machine.conclude (.table (engine.registry.tableOf? id), engine)
  | .stop name =>
    match (machine.engine.handles name).watch? with
    | none => machine.say .nothing
    | some id =>
      machine.conclude (.flag (machine.engine.registry.has id), machine.engine.leave id)

/-- Carries out a command on the store. -/
def performStore (machine : Machine) : StoreCommand → Machine
  | .ensureOpen =>
    match machine.engine.store.open? with
    | .ok store => machine.conclude (.opened (.ok ()), { machine.engine with store := store })
    | .error error => machine.say (.opened (.error error))
  | .close =>
    machine.conclude (.nothing, { machine.engine with store := machine.engine.store.close })
  | .block reason? =>
    let store := machine.engine.store.block reason?
    machine.conclude (.nothing, { machine.engine with store := store })
  | .transact mode table steps =>
    let (outcome, engine) := machine.engine.transactDirectly mode table steps
    machine.conclude (.transaction outcome, engine)

/-- Carries out a command on the clock and the monitor. -/
def performClock (machine : Machine) : ClockCommand → Machine
  | .monitor enabled =>
    machine.conclude (.nothing, { machine.engine with isMonitoring := enabled })
  | .start now =>
    let monitor := Monitor.fresh machine.engine.config.recentWindow
    let clock := ⟨machine.engine.clock.number + 1, now⟩
    machine.conclude (.nothing, { machine.engine with clock := clock, monitor := monitor })
  | .advance duration =>
    let clock := machine.engine.clock
    let moved := { clock with now := clock.now.add duration }
    machine.conclude (.nothing, { machine.engine with clock := moved })

/-- Carries out a command. -/
def perform (machine : Machine) : Command → Machine
  | .inquire inquiry => machine.say (machine.engine.answer inquiry)
  | .feed command => machine.performFeed command
  | .registry command => machine.performRegistry command
  | .queue command => machine.performQueue command
  | .store command => machine.performStore command
  | .clock command => machine.performClock command
  | .request command => machine.performRequest command
  | .executor command => machine.performExecutor command
  | .watch command => machine.performWatch command
  | .binding command => machine.performBinding command
  | .cache command => machine.performCache command
  | .run => machine.next running
  | .drop name =>
    let engine := machine.engine.drop name
    machine.conclude (.number engine.registry.size, engine)

/-- Does one thing. -/
def act (machine : Machine) : Activity → Machine
  | .perform command => machine.perform command
  | .note label => machine.note (.replied label machine.reply)
  | .answer reply => machine.say reply
  | .call callback notice => machine.call callback notice
  | .flush => machine.flush
  | .deliver delivered => machine.deliver delivered
  | .tell listener batch => machine.tell listener batch
  | .dispatch generation batch => machine.dispatch generation batch
  | .visit generation table => machine.visit generation table
  | .letGo held => machine.become (machine.engine.letGo held)
  | .alert watcher table => machine.alert watcher table
  | .drain ran failure? => machine.drain ran failure?
  | .noteDrained => machine.note (.drained machine.reply)
  | .afterDrain => machine.afterDrain
  | .resolve id => machine.resolve id
  | .recheck id => machine.recheck id
  | .settle id outcome => machine.settle id outcome
  | .refresh binding result => machine.refresh binding result
  | .serve binding => machine.serve binding
  | .refill cache records => machine.refill cache records
  | .serveItem cache id callback => machine.serveItem cache id callback
  | .spread cache => machine.spread cache

/-- Does the first thing on the agenda, if there is one. -/
def step? (machine : Machine) : Option Machine :=
  match machine.agenda with
  | [] => none
  | activity :: rest => some (act { machine with agenda := rest } activity)

/-- Runs the machine to its end, if it comes to it within a number of steps. -/
def run? : Nat → Machine → Option Machine
  | 0, machine => if machine.agenda.isEmpty then some machine else none
  | limit + 1, machine =>
    match machine.step? with
    | none => some machine
    | some next => run? limit next

end Machine

namespace Engine

/--
Carries out a command: the reply, what was noted, and the engine afterwards; nothing
where that takes more than `limit` steps.
-/
def call? (limit : Nat) (engine : Engine) (command : Command) :
    Option (Reply × List Event × Engine) :=
  ((Machine.start engine command).run? limit).map fun machine =>
    (machine.reply, machine.log, machine.engine)

end Engine

end LiveTable
