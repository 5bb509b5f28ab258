import LiveTable.Engine.Drain

/-!
# Requests that run once

A request is queued on an executor of its own.  Its outcome is there once it has run, until
it is taken.  Resolving a request runs tasks until its outcome is there, whatever
becomes of other tasks; an outcome that was taken before is never there again.
-/

set_option autoImplicit false

namespace LiveTable

namespace Engine

/-- Takes the outcome of a request, if it is there. -/
def takeOutcome (engine : Engine) (id : Nat) : Option (Except Error Outcome) × Engine :=
  (engine.outcomes.get? id, { engine with outcomes := engine.outcomes.erase id })

end Engine

namespace Machine

/-- Takes the outcome of a request, if it is there; else goes on as told. -/
def takeOr (machine : Machine) (id : Nat) (otherwise : Machine → Machine) : Machine :=
  match machine.engine.takeOutcome id with
  | (some outcome, engine) => machine.conclude (.outcome (some outcome), engine)
  | (none, _) => otherwise machine

/-- Takes the outcome of a request, running tasks until it is there. -/
def resolve (machine : Machine) (id : Nat) : Machine :=
  machine.takeOr id fun machine => machine.next (running ++ [.recheck id])

/-- Looks for the outcome of a request after tasks were run; a failure of another task is let be. -/
def recheck (machine : Machine) (id : Nat) : Machine :=
  machine.takeOr id fun machine =>
    match machine.reply with
    | .drained (.error _) => machine.next (running ++ [.recheck id])
    | _ => machine.say (.outcome (some (.error (.invalidOperation "operation did not settle"))))

/-- Gives a request its outcome. -/
def settle (machine : Machine) (id : Nat) (outcome : Except Error Outcome) : Machine :=
  machine.become
    { machine.engine with outcomes := machine.engine.outcomes.insert id outcome }

end Machine

namespace Engine

/-- Queues a request on an executor of its own; the answer is its number. -/
def submit (engine : Engine) (table : String) (request : Request) : Nat × Engine :=
  let (id, engine) := engine.allocate
  (id, (engine.schedule id (.request ⟨table, request.mode, request⟩)).2)

end Engine

namespace Machine

/-- Carries out a command on requests that run once. -/
def performRequest (machine : Machine) : RequestCommand → Machine
  | .submit none table request =>
    let (id, engine) := machine.engine.submit table request
    (machine.become engine).next [.resolve id]
  | .submit (some name) table request =>
    let (id, engine) := machine.engine.submit table request
    machine.conclude (.settled (engine.outcomes.contains id),
      engine.rename name fun handles => { handles with request? := some id })
  | .take name =>
    match (machine.engine.handles name).request? with
    | none => machine.say .nothing
    | some id =>
      let (outcome?, engine) := machine.engine.takeOutcome id
      machine.conclude (.outcome outcome?, engine)
  | .resolve name =>
    match (machine.engine.handles name).request? with
    | none => machine.say .nothing
    | some id =>
      let engine := machine.engine.rename name fun handles => { handles with request? := none }
      (machine.become engine).next [.resolve id]

end Machine

end LiveTable
