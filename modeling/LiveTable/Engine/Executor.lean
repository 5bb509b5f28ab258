import LiveTable.Engine.Machine

/-!
# Executors

An executor runs operations on a table for a callback, one unit at a time.  Without a
callback for failures a unit that fails is a task that fails.
-/

set_option autoImplicit false

namespace LiveTable

namespace Engine

/-- The executor of a name, or a new one. -/
def executorOf (engine : Engine) (name? : Option String) : Nat × Engine :=
  match name?.bind fun name => (engine.handles name).executor? with
  | some id => (id, engine)
  | none => engine.allocate

end Engine

namespace Machine

/-- Carries out a command on executors. -/
def performExecutor (machine : Machine) : ExecutorCommand Command → Machine
  | .create name =>
    let (id, engine) := machine.engine.allocate
    machine.conclude
      (.nothing, engine.rename name fun handles => { handles with executor? := some id })
  | .run name? table mode steps isSkipped reaction reportsFailure =>
    let (executor, engine) := machine.engine.executorOf name?
    let (callback, engine) := engine.register reaction
    let unit? := if isSkipped then none else some ⟨table, mode, .operations steps⟩
    let (submission, engine) := engine.schedule executor (.callback unit? callback reportsFailure)
    machine.conclude (.scheduling submission (engine.isBusy executor), engine)

end Machine

end LiveTable
