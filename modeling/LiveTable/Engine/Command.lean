import LiveTable.Engine.Request

/-!
# Commands

Commands are what is asked of an engine, as data.  They come in groups, by what they
act on.  A command that registers a callback carries a reaction: what the callback
does when it is called, which is itself a list of commands.  So one command may be carried
out on several occasions, and on each it issues its descriptors anew.

Bindings, caches, watches, executors and pending requests are called by names.  A
name stands for at most one of each kind.
-/

set_option autoImplicit false

namespace LiveTable

/-- What a callback does: it is noted under a label, and on the first calls runs commands. -/
structure Reaction (Command : Type) where
  label : String
  commands : List Command
  /-- On how many calls the commands are run. -/
  times : Nat

/-- A task without a transaction: it queues others, may drain the queue, and may fail. -/
structure Routine where
  label : String
  followers : List Routine
  drains : Bool
  failure? : Option Error

/-- What can be asked without any effect. -/
inductive Inquiry where
  | listeners
  | outbox
  | tableOf (id : Nat)
  | registry
  | info
  | queue
  | stats
  | settled (name : String)
  | busy (name : String)
  | binding (name : String)
  /-- Whether a binding has a descriptor, which is issued for this inquiry. -/
  | bindingIs (name : String) (descriptor : Descriptor)
  | bindingCount (name : String)
  | cache (name : String)
  | item (name : String) (id : Value)

/-- Commands on the feed of committed changes. -/
inductive FeedCommand (Command : Type) where
  | listen (reaction : Reaction Command)
  | unlisten (id : Nat)
  | publish (batch : List Change)
  | flush

/-- Commands on the registry of watchers, which are given by number. -/
inductive RegistryCommand (Command : Type) where
  | watch (id : Nat) (table : String) (reaction : Reaction Command)
  | leave (id : Nat)
  | dispatch (batch : List Change)
  | clear
  /-- Gives the registry up, and answers how many listeners are left. -/
  | giveUp
  /-- Begins again with a registry that has no watchers and does not listen yet. -/
  | renew
  /-- Whether a new number lies above all those given out before. -/
  | number

/-- Commands on the queue of tasks. -/
inductive QueueCommand where
  | push (routine : Routine)
  | drain

/-- Commands on the store. -/
inductive StoreCommand where
  | ensureOpen
  | close
  | block (reason? : Option String)
  | transact (mode : AccessMode) (table : String) (steps : List OperationStep)

/-- Commands on the clock and the monitor. -/
inductive ClockCommand where
  | monitor (enabled : Bool)
  /-- Starts a new clock and a new monitor. -/
  | start (now : Binary64)
  | advance (duration : Binary64)

/-- Commands on requests that run once. -/
inductive RequestCommand where
  /-- Queues a request; without a name its outcome is awaited. -/
  | submit (name? : Option String) (table : String) (request : Request)
  | take (name : String)
  | resolve (name : String)

/-- Commands on executors. -/
inductive ExecutorCommand (Command : Type) where
  | create (name : String)
  /-- Queues operations on an executor, or on one of their own; none are run if they are skipped. -/
  | run (name? : Option String) (table : String) (mode : AccessMode)
    (steps : List OperationStep) (isSkipped : Bool) (reaction : Reaction Command)
    (reportsFailure : Bool)

/-- Commands on watches. -/
inductive WatchCommand (Command : Type) where
  | create (name table : String) (reaction : Reaction Command)
  | stop (name : String)

/-- Commands on bindings. -/
inductive BindingCommand (Command : Type) where
  | create (name table : String) (descriptor : Descriptor)
  | setDescriptor (name : String) (descriptor : Descriptor)
  | setTable (name table : String)
  | addClause (name : String) (clause : Clause)
  | refresh (name : String)
  | fetch (name : String) (table? : Option String) (descriptor? : Option Descriptor)
    (reaction : Reaction Command)
  | subscribe (name : String) (reaction : Reaction Command)
  | unsubscribe (name : String) (id : Nat)
  | close (name : String)

/-- The command with what it says of descriptors as issued on an occasion. -/
def BindingCommand.issued {Command : Type} (occasion : Nat) :
    BindingCommand Command → BindingCommand Command
  | .create name table descriptor => .create name table (descriptor.issued occasion)
  | .setDescriptor name descriptor => .setDescriptor name (descriptor.issued occasion)
  | .addClause name clause => .addClause name (clause.issued occasion)
  | .fetch name table? descriptor? reaction =>
    .fetch name table? (descriptor?.map (·.issued occasion)) reaction
  | command => command

/-- Commands on item caches. -/
inductive CacheCommand (Command : Type) where
  | create (name table : String) (idField? : Option String)
  | track (name : String) (ids : List Value)
  | request (name : String) (id : Value) (reaction? : Option (Reaction Command))
  | fetch (name : String)
  | subscribe (name : String) (reaction : Reaction Command)
  | unsubscribe (name : String) (id : Nat)
  | close (name : String)

/-- What is asked of an engine. -/
inductive Command where
  | inquire (inquiry : Inquiry)
  | feed (command : FeedCommand Command)
  | registry (command : RegistryCommand Command)
  | queue (command : QueueCommand)
  | store (command : StoreCommand)
  | clock (command : ClockCommand)
  | request (command : RequestCommand)
  | executor (command : ExecutorCommand Command)
  | watch (command : WatchCommand Command)
  | binding (command : BindingCommand Command)
  | cache (command : CacheCommand Command)
  /-- Drains the queue and then flushes the feed. -/
  | run
  /-- Gives up everything of a name. -/
  | drop (name : String)

/-- A registered reaction; the number tells it from others that do the same. -/
structure Callback where
  id : Nat
  reaction : Reaction Command

end LiveTable
