import LiveTable.Engine.Inquiry

/-!
# The machine

Carrying out a command may call callbacks, which run commands of their own, which may
deliver changes and drain the queue again.  The machine does this step by step: it
has an agenda, takes the first activity off it and performs it, which may put further
activities in front.  So whatever an activity leads to comes before everything that
was on the agenda already.
-/

set_option autoImplicit false

namespace LiveTable

/-- One thing to do. -/
inductive Activity where
  /-- Carries out a command. -/
  | perform (command : Command)
  /-- Notes the reply to a command of a callback. -/
  | note (label : String)
  /-- Gives a reply. -/
  | answer (reply : Reply)
  /-- Calls a callback. -/
  | call (callback : Callback) (notice : Notice)
  /-- Delivers the batches of the outbox, unless they are being delivered. -/
  | flush
  /-- Delivers the next batch after as many as are given, or ends the delivery. -/
  | deliver (delivered : Nat)
  /-- Passes a batch to a listener. -/
  | tell (listener : Listener) (batch : List Change)
  /-- Alerts the watchers of every table that a batch touches, in the registry of a generation. -/
  | dispatch (generation : Nat) (batch : List Change)
  /-- Alerts the watchers of a table. -/
  | visit (generation : Nat) (table : String)
  /-- Lets go of what was held. -/
  | letGo (held : Held)
  | alert (watcher : Watcher) (table : String)
  /-- Runs the tasks of the queue after as many as are given, unless the last of them failed. -/
  | drain (ran : Nat) (failure? : Option Error)
  /-- Notes what a routine's draining of the queue came to. -/
  | noteDrained
  /-- Flushes the feed if the queue was drained without failure. -/
  | afterDrain
  /-- Takes the outcome of a request, running tasks until it is there. -/
  | resolve (id : Nat)
  /-- Looks for the outcome of a request after tasks were run. -/
  | recheck (id : Nat)
  /-- Gives a request its outcome. -/
  | settle (id : Nat) (outcome : Except Error Outcome)
  /-- Gives a binding the result of its execution. -/
  | refresh (binding : Nat) (result : QueryResult)
  /-- Answers the callbacks that wait for a binding. -/
  | serve (binding : Nat)
  /-- Gives a cache the records of its fetch. -/
  | refill (cache : Nat) (records : List Record)
  /-- Answers a callback that waited for an item of a cache. -/
  | serveItem (cache : Nat) (id : Value) (callback : Callback)
  /-- Passes the items of a cache to its consumers. -/
  | spread (cache : Nat)

/-- An engine at work. -/
structure Machine where
  engine : Engine
  agenda : List Activity
  /-- What the activity before came to. -/
  reply : Reply
  /-- What was noted so far. -/
  log : List Event

namespace Machine

/-- The machine about to carry out a command. -/
def start (engine : Engine) (command : Command) : Machine :=
  ⟨engine, [.perform command], .nothing, []⟩

/-- Puts activities in front of the agenda. -/
def next (machine : Machine) (activities : List Activity) : Machine :=
  { machine with agenda := activities ++ machine.agenda }

/-- Gives a reply. -/
def say (machine : Machine) (reply : Reply) : Machine :=
  { machine with reply := reply }

/-- Notes an event. -/
def note (machine : Machine) (event : Event) : Machine :=
  { machine with log := machine.log ++ [event] }

/-- Goes on with a changed engine. -/
def become (machine : Machine) (engine : Engine) : Machine :=
  { machine with engine := engine }

/-- Goes on with a changed engine and gives a reply. -/
def conclude (machine : Machine) (outcome : Reply × Engine) : Machine :=
  { machine with reply := outcome.1, engine := outcome.2 }

end Machine

end LiveTable
