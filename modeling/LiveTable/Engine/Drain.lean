import LiveTable.Engine.Delivery
import LiveTable.Engine.Unit

/-!
# Running the queue

Draining the queue runs its tasks, oldest first, until it is empty or a task fails;
tasks that are queued meanwhile are run as well.

When a unit has run its executor is free, the one for whom it ran is told, and the
feed is flushed.  A failure that nobody is told of is the failure of the task.
-/

set_option autoImplicit false

namespace LiveTable

namespace Job

/-- Whom the success of a unit is told, and what. -/
def succeed (executor : Nat) (outcome : Outcome) : Job → List Activity
  | .binding =>
    match outcome with
    | .result result => [.refresh executor result]
    | _ => []
  | .cache =>
    match outcome with
    | .result result => [.refill executor (result.records?.getD [])]
    | _ => []
  | .request _ => [.settle executor (.ok outcome)]
  | .callback _ target _ =>
    match outcome with
    | .answers answers => [.call target (.answers answers)]
    | _ => []

/-- Whether somebody is told of a failure. -/
def handlesFailure : Job → Bool
  | .binding => false
  | .cache => false
  | .request _ => true
  | .callback _ _ reportsFailure => reportsFailure

/-- Whom a failure that is handled is told, and what. -/
def fail (executor : Nat) (failure : OperationFailure) : Job → List Activity
  | .request _ => [.settle executor (.error failure.error)]
  | .callback _ target true => [.call target (.failure failure.error failure.answers)]
  | _ => []

/-- The failure of the task whose unit failed: none where it is handled. -/
def unhandled? (job : Job) (failure : OperationFailure) : Option Error :=
  if job.handlesFailure then none else some failure.error

end Job

namespace Machine

/-- Runs a unit, the last of `ran` tasks. -/
def runUnit (machine : Machine) (executor : Nat) (job : Job) (clock : Nat) (ran : Nat) :
    Machine :=
  match machine.engine.unit? executor job with
  | none => (machine.become (machine.engine.release executor)).next [.drain ran none]
  | some unit =>
    let (outcome, engine) := machine.engine.runUnit unit clock
    let machine := machine.become (engine.release executor)
    match outcome with
    | .ok outcome => machine.next (job.succeed executor outcome ++ [.flush, .drain ran none])
    | .error failure =>
      machine.next (job.fail executor failure ++ [.flush, .drain ran (job.unhandled? failure)])

/-- Runs a routine, the last of `ran` tasks. -/
def runRoutine (machine : Machine) (routine : Routine) (ran : Nat) : Machine :=
  let queued := routine.followers.foldl (fun engine follower => engine.enqueue (.routine follower))
    machine.engine
  let inner := if routine.drains then [.drain 0 none, .noteDrained] else []
  ((machine.note (.ran routine.label)).become queued).next
    (inner ++ [.drain ran routine.failure?])

/-- Runs the next task, unless the last one failed or there is none. -/
def drain (machine : Machine) (ran : Nat) : Option Error → Machine
  | some failure => machine.say (.drained (.error failure))
  | none =>
    match machine.engine.queue with
    | [] => machine.say (.drained (.ok ran))
    | task :: rest =>
      let machine := machine.become { machine.engine with queue := rest }
      match task with
      | .unit executor job clock => machine.runUnit executor job clock (ran + 1)
      | .routine routine => machine.runRoutine routine (ran + 1)

/-- Carries out a command on the queue. -/
def performQueue (machine : Machine) : QueueCommand → Machine
  | .push routine => machine.conclude (.nothing, machine.engine.enqueue (.routine routine))
  | .drain => machine.next [.drain 0 none]

/-- Flushes the feed if the queue was drained without failure; the reply stays. -/
def afterDrain (machine : Machine) : Machine :=
  match machine.reply with
  | .drained (.ok ran) => machine.next [.flush, .answer (.drained (.ok ran))]
  | _ => machine

/-- Drains the queue and then flushes the feed. -/
def running : List Activity :=
  [.drain 0 none, .afterDrain]

end Machine

end LiveTable
