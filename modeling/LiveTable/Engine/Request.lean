import LiveTable.Store.Operation

/-!
# Requests

A request is what one unit of work does inside its transaction, as data, and its
outcome.  A request that selects one record does so by the primary key that its
descriptor finds first.
-/

set_option autoImplicit false

namespace LiveTable

/-- What a unit of work does on its table. -/
inductive Request where
  | put (record : Record)
  | putAll (records : List Record)
  | delete (key : Value)
  | query (descriptor : Descriptor)
  /-- Deletes the records that a descriptor selects, whatever its projection. -/
  | deleteBy (descriptor : Descriptor)
  /-- Updates the first record that a descriptor selects, under its own key. -/
  | update (descriptor : Descriptor) (change : Record → Except Error Record)
  | firstKey (descriptor : Descriptor)
  | operations (steps : List OperationStep)

/-- What a request comes to. -/
inductive Outcome where
  /-- The key that was written last. -/
  | key (key : Value)
  /-- There is nothing to say. -/
  | done
  | result (result : QueryResult)
  /-- The key of the selected record, if there was one. -/
  | found (key? : Option Value)
  | answers (answers : List Answer)
deriving Inhabited

/-- A request with the table and the mode of its transaction. -/
structure WorkUnit where
  table : String
  mode : AccessMode
  request : Request

namespace Descriptor

/-- The mode that running the descriptor needs. -/
def mode (descriptor : Descriptor) : AccessMode :=
  if descriptor.isWrite then .readWrite else .readOnly

/-- The primary key of the first record that the descriptor selects. -/
def findFirst (descriptor : Descriptor) : Work (Option Value) := do
  let result ← descriptor.firstKey.run
  pure (result.keys?.bind List.head?)

end Descriptor

namespace Request

/-- The mode that the request needs; lists of operations are given theirs. -/
def mode : Request → AccessMode
  | .query descriptor => descriptor.mode
  | .firstKey _ => .readOnly
  | _ => .readWrite

/-- Updates the first record that a descriptor selects; the answer is its key. -/
def updateFirst (descriptor : Descriptor) (change : Record → Except Error Record) :
    Work (Option Value) := do
  match ← descriptor.findFirst with
  | none => pure none
  | some key =>
    match (← Work.table).get? key with
    | none => pure none
    | some current =>
      match change current with
      | .error error => throw error
      | .ok record =>
        let _ ← Work.put record (some key)
        pure (some key)

/-- Work that is no list of operations: its failure has no answers. -/
def alone (work : Work Outcome) (space : Workspace) :
    Except OperationFailure Outcome × Workspace :=
  let (outcome, space) := work.run.run space
  (outcome.mapError fun error => ⟨error, []⟩, space)

/-- Runs the request in a workspace. -/
def perform : Request → Workspace → Except OperationFailure Outcome × Workspace
  | .put record => alone do pure (.key (← Work.put record none))
  | .putAll records => alone do pure (.key (← Work.putAll records))
  | .delete key => alone do
    let _ ← Work.delete key
    pure .done
  | .query descriptor => alone do pure (.result (← descriptor.run))
  | .deleteBy descriptor => alone do pure (.result (← descriptor.erasing.run))
  | .update descriptor change => alone do pure (.found (← updateFirst descriptor change))
  | .firstKey descriptor => alone do pure (.found (← descriptor.findFirst))
  | .operations steps => fun space =>
    let (outcome, space) := OperationStep.performAll [] steps space
    (outcome.map .answers, space)

end Request

/-- The answers of the operations that a unit ran, also where it failed. -/
def Request.answersOf : Except OperationFailure Outcome → List Answer
  | .ok (.answers answers) => answers
  | .ok _ => []
  | .error failure => failure.answers

/-- Runs a unit in one transaction on a store. -/
def Store.run (store : Store) (unit : WorkUnit) : Except OperationFailure Outcome × Store :=
  store.transaction (fun error => ⟨error, []⟩) unit.mode unit.table unit.request.perform

end LiveTable
