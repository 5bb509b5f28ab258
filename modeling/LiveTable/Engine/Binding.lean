import LiveTable.Engine.Delivery

/-!
# Bindings

A binding holds the result of a query on a table.  It requests an execution when it is
made, when its descriptor or its table changes, and whenever a delivered batch touches
its table.  A result that equals the held one changes nothing; any other replaces it
and is passed to the consumers.  Then the callbacks that wait are called with the held
result.

A closed binding watches nothing and rejects every request.
-/

set_option autoImplicit false

namespace LiveTable

/-- A binding that has not been executed. -/
def Binding.create (table : String) (descriptor : Descriptor) : Binding :=
  ⟨table, descriptor, none, 0, .empty, [], false⟩

/-- Whether a result equals the held one. -/
def Binding.holds (binding : Binding) (result : QueryResult) : Bool :=
  binding.value?.any (·.same result)

namespace Engine

/-- Makes a binding and requests its execution; the answer is its number. -/
def createBinding (engine : Engine) (table : String) (descriptor : Descriptor) :
    Nat × Engine :=
  let (id, engine) := engine.allocate
  let engine := { engine with bindings := engine.bindings.insert id (.create table descriptor) }
  let engine := engine.watch id table (.binding id)
  (id, (engine.requestBinding id).2)

/-- Gives a binding another descriptor; one that equals the present one changes nothing. -/
def setDescriptor (engine : Engine) (id : Nat) (binding : Binding) (descriptor : Descriptor) :
    Option Submission × Engine :=
  if binding.descriptor.same descriptor then (none, engine)
  else
    let changed := engine.modifyBinding id fun binding => { binding with descriptor := descriptor }
    let (submission, engine) := changed.requestBinding id
    (some submission, engine)

/-- Moves a binding to another table; the present one changes nothing. -/
def setTable (engine : Engine) (id : Nat) (binding : Binding) (table : String) :
    Option Submission × Engine :=
  if binding.table = table then (none, engine)
  else
    let changed := engine.modifyBinding id fun binding => { binding with table := table }
    let watching := if binding.isClosed then changed else changed.watch id table (.binding id)
    let (submission, engine) := watching.requestBinding id
    (some submission, engine)

/--
Applies what a fetch asks for and lets the callback wait, if that differs from what
the binding has; the answer says whether it does.
-/
def fetch (engine : Engine) (id : Nat) (binding : Binding) (table? : Option String)
    (descriptor? : Option Descriptor) (callback : Callback) : Bool × Engine :=
  let newTable? := table?.filter (· != binding.table)
  let newDescriptor? := descriptor?.filter (!binding.descriptor.same ·)
  if newTable?.isNone && newDescriptor?.isNone then (false, engine)
  else
    let engine := engine.modifyBinding id fun binding =>
      { binding with
        waiting := binding.waiting ++ [callback]
        descriptor := newDescriptor?.getD binding.descriptor }
    match newTable? with
    | some table => (true, (engine.setTable id binding table).2)
    | none => (true, (engine.requestBinding id).2)

end Engine

/-- The reply to a change that may have been none. -/
def Reply.ofSubmission? : Option Submission → Reply
  | some made => .submission made
  | none => .nothing

namespace Machine

/-- Gives a binding the result of its execution. -/
def refresh (machine : Machine) (id : Nat) (result : QueryResult) : Machine :=
  match machine.engine.bindings.get? id with
  | none => machine
  | some binding =>
    if binding.holds result then machine.next [.serve id]
    else
      let engine := machine.engine.modifyBinding id fun binding =>
        { binding with value? := some result, version := binding.version + 1 }
      (machine.become engine).next
        (binding.consumers.all.map (.call · (.result (some result))) ++ [.serve id])

/-- Answers the callbacks that wait for a binding. -/
def serve (machine : Machine) (id : Nat) : Machine :=
  match machine.engine.bindings.get? id with
  | none => machine
  | some binding =>
    let engine := machine.engine.modifyBinding id fun binding => { binding with waiting := [] }
    (machine.become engine).next (binding.waiting.map (.call · (.result binding.value?)))

/-- Goes on with the binding of a name, if it stands for one. -/
def withBinding (machine : Machine) (name : String) (go : Nat → Binding → Machine) : Machine :=
  match machine.engine.binding? name with
  | some (id, binding) => go id binding
  | none => machine.say .nothing

/-- Carries out a command on bindings, whose descriptors have been issued. -/
def performIssued (machine : Machine) : BindingCommand Command → Machine
  | .create name table descriptor =>
    let former? := (machine.engine.handles name).binding?
    let (id, engine) := machine.engine.createBinding table descriptor
    let engine := engine.rename name fun handles => { handles with binding? := some id }
    let engine := former?.elim engine engine.discard
    machine.conclude (.bound (engine.isBusy id) (engine.registry.tableOf? id), engine)
  | .setDescriptor name descriptor => machine.withBinding name fun id binding =>
    let (submission?, engine) := machine.engine.setDescriptor id binding descriptor
    machine.conclude (.ofSubmission? submission?, engine)
  | .setTable name table => machine.withBinding name fun id binding =>
    let (submission?, engine) := machine.engine.setTable id binding table
    machine.conclude (.ofSubmission? submission?, engine)
  | .addClause name clause => machine.withBinding name fun id binding =>
    let descriptor := binding.descriptor.withClause clause
    let (submission?, engine) := machine.engine.setDescriptor id binding descriptor
    machine.conclude (.ofSubmission? submission?, engine)
  | .refresh name => machine.withBinding name fun id _ =>
    let (submission, engine) := machine.engine.requestBinding id
    machine.conclude (.submission submission, engine)
  | .fetch name table? descriptor? reaction => machine.withBinding name fun id binding =>
    let (callback, engine) := machine.engine.register reaction
    let (waits, engine) := engine.fetch id binding table? descriptor? callback
    let held := if waits then none else binding.value?
    (machine.become engine).holding (.object id)
      ((held.toList.map fun result => .call callback (.result (some result))) ++
        [.answer .nothing])
  | .subscribe name reaction => machine.withBinding name fun id binding =>
    let (callback, engine) := machine.engine.register reaction
    let (number, consumers) := binding.consumers.add callback
    machine.conclude (.number number,
      engine.modifyBinding id fun binding => { binding with consumers := consumers })
  | .unsubscribe name number => machine.withBinding name fun id binding =>
    machine.conclude (.flag (binding.consumers.has number),
      machine.engine.modifyBinding id fun binding =>
        { binding with consumers := binding.consumers.remove number })
  | .close name => machine.withBinding name fun id _ =>
    machine.conclude (.nothing, machine.engine.closeBinding id)

/-- Carries out a command on bindings; its descriptors are issued on this occasion. -/
def performBinding (machine : Machine) (command : BindingCommand Command) : Machine :=
  let (occasion, engine) := machine.engine.allocate
  (machine.become engine).performIssued (command.issued occasion)

end Machine

end LiveTable
