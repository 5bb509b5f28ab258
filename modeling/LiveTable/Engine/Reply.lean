import LiveTable.Engine.Command
import LiveTable.Engine.Config
import LiveTable.Engine.Stats
import LiveTable.Items
import LiveTable.Value.Set

/-!
# Replies, notices and events

A reply is what a command comes to.  A notice is what a callback is called with.  An
event is what is noted while a command is carried out: calls of callbacks, and the
replies to the commands that callbacks run.
-/

set_option autoImplicit false

namespace LiveTable

/-- What becomes of a unit that is handed to an executor. -/
inductive Submission where
  | scheduled
  /-- The executor has a unit already. -/
  | rejected
deriving Repr, DecidableEq, Inhabited

/-- What can be seen of a binding. -/
structure BindingView where
  value? : Option QueryResult
  version : Nat
  isBusy : Bool
  isClosed : Bool
  table : String

/-- What can be seen of an item cache. -/
structure CacheView where
  items : Items
  tracked : ValueSet
  isBusy : Bool

/-- What can be seen of an engine. -/
structure EngineView where
  name : String
  isOpen : Bool
  queued : Nat
  isMonitoring : Bool
  config : Config

/-- What a command comes to. -/
inductive Reply where
  | nothing
  | flag (flag : Bool)
  | number (number : Nat)
  | table (table? : Option String)
  | record (record? : Option Record)
  | registry (stats : RegistryStats) (isAttached : Bool)
  | engine (view : EngineView)
  | stats (stats : EngineStats)
  /-- The store was opened, or could not be. -/
  | opened (outcome : Except Error Unit)
  /-- How many tasks were run, or the failure that ended the run. -/
  | drained (outcome : Except Error Nat)
  | transaction (outcome : Except OperationFailure (List Answer))
  | settled (isSettled : Bool)
  | outcome (outcome? : Option (Except Error Outcome))
  | submission (submission : Submission)
  | scheduling (submission : Submission) (isBusy : Bool)
  | bound (isBusy : Bool) (table? : Option String)
  | binding (view : BindingView)
  | cached (table idField : String)
  | cache (view : CacheView)
deriving Inhabited

/-- What a callback is called with. -/
inductive Notice where
  | table (name : String)
  | changes (batch : List Change)
  | result (result? : Option QueryResult)
  | item (record? : Option Record)
  | items (items : Items)
  | answers (answers : List Answer)
  | failure (error : Error) (answers : List Answer)

/-- What is noted while a command is carried out. -/
inductive Event where
  /-- A callback was called. -/
  | called (callback : Callback) (notice : Notice)
  /-- A command of a callback was carried out. -/
  | replied (label : String) (reply : Reply)
  /-- A routine was run. -/
  | ran (label : String)
  /-- A routine drained the queue. -/
  | drained (reply : Reply)

/-- The wording of whether a request is settled. -/
def settledMessage (isSettled : Bool) : String :=
  if isSettled then "Pending \x7b settled: true \x7d" else "Pending \x7b settled: false \x7d"

end LiveTable
