import LiveTable.Query.Result
import LiveTable.Store.Basic

/-!
# Operations on a table

An operation is one call of what a table offers, as data, and its answer.  A list of
operations is work on the table: it ends with the first operation that fails, unless
that failure is caught, and then goes on.
-/

set_option autoImplicit false

namespace LiveTable

/-- What a query by hand begins with. -/
inductive QueryStart where
  | all
  | matching (field : String) (condition : Condition)
  | filter (test : Record → Bool)
  | orderedBy (field : String)

/-- A further step of a query by hand. -/
inductive QueryStep where
  | or (field : String) (condition : Condition)
  | filter (test : Record → Bool)
  | reverse
  | offset (count : Nat)
  | limit (count : Nat)

/-- What a query by hand ends with. -/
inductive QueryEnd where
  | count
  | keys
  | records
  | first
  | delete
  /-- The number, the keys and the first record at once. -/
  | summary

/-- An operation on a table. -/
inductive Operation where
  | put (record : Record) (key? : Option Value)
  | putAll (records : List Record)
  | delete (key : Value)
  | clear
  | get (key : Value)
  | count
  | describe
  | run (descriptor : Descriptor)
  | collect (start : QueryStart) (steps : List QueryStep) (finish : QueryEnd)
  | fail (message : String)
  /-- Takes time. -/
  | wait (duration : Binary64)

/-- The answer of an operation. -/
inductive Answer where
  | nothing
  | value (value : Value)
  | flag (flag : Bool)
  | number (number : Nat)
  | record (record? : Option Record)
  | records (records : List Record)
  | keys (keys : List Value)
  | description (name : String) (mode : AccessMode) (schema : TableSchema)
  | result (result : QueryResult)
  | summary (count : Nat) (keys : List Value) (first? : Option Record)
  | waited (duration : Binary64)
  /-- The operation failed and the failure was caught. -/
  | failure (error : Error)
deriving Inhabited

/-- The collection that a query begins with. -/
def QueryStart.collection (start : QueryStart) (schema : TableSchema) : Except Error Collection :=
  match start with
  | .all => .ok .all
  | .matching field condition => .ok (Collection.all.matching field condition)
  | .filter test => .ok (Collection.all.filter test)
  | .orderedBy field => Collection.orderedByIndex schema field

/-- Adds a step to a collection. -/
def QueryStep.extend (collection : Collection) (step : QueryStep) : Collection :=
  match step with
  | .or field condition => collection.matching field condition
  | .filter test => collection.filter test
  | .reverse => collection.reverse
  | .offset count => collection.skip count
  | .limit count => collection.take count

/-- Runs a collection as the end of a query says. -/
def QueryEnd.finish (finish : QueryEnd) (collection : Collection) : Work Answer := do
  let table ← Work.table
  match finish with
  | .count => pure (.number (collection.count table))
  | .keys => pure (.keys (collection.keys table))
  | .records => pure (.records (collection.records table))
  | .first => pure (.record (collection.records table).head?)
  | .delete => do pure (.number (← collection.delete))
  | .summary =>
    pure (.summary (collection.count table) (collection.keys table)
      (collection.records table).head?)

namespace Operation

/-- Runs an operation. -/
def perform : Operation → Work Answer
  | .put record key? => do pure (.value (← Work.put record key?))
  | .putAll records => do pure (.value (← Work.putAll records))
  | .delete key => do pure (.flag (← Work.delete key))
  | .clear => do pure (.number (← Work.clear))
  | .get key => do pure (.record ((← Work.table).get? key))
  | .count => do pure (.number (← Work.table).rows.size)
  | .describe => do
    let space ← Work.workspace
    pure (.description space.table.name space.transaction.mode space.table.schema)
  | .run descriptor => do pure (.result (← descriptor.run))
  | .collect start steps finish => do
    match start.collection (← Work.table).schema with
    | .error error => throw error
    | .ok collection => finish.finish (steps.foldl QueryStep.extend collection)
  | .fail message => throw (.invalidOperation message)
  | .wait duration => pure (.waited duration)

end Operation

/-- An operation in a list of operations. -/
structure OperationStep where
  operation : Operation
  /-- Whether the list goes on if the operation fails. -/
  catches : Bool

/-- How a list of operations failed, with the answers so far, the failure being the last. -/
structure OperationFailure where
  error : Error
  answers : List Answer

/-- The answers of operations, also of those that came before a failure. -/
def OperationFailure.answersOf : Except OperationFailure (List Answer) → List Answer
  | .ok answers => answers
  | .error failure => failure.answers

namespace OperationStep

/-- Runs operations in order; `answers` are those of the operations before them. -/
def performAll (answers : List Answer) :
    List OperationStep → Workspace → Except OperationFailure (List Answer) × Workspace
  | [], space => (.ok answers, space)
  | step :: rest, space =>
    match step.operation.perform.run.run space with
    | (.ok answer, space) => performAll (answers ++ [answer]) rest space
    | (.error error, space) =>
      let answers := answers ++ [.failure error]
      if step.catches then performAll answers rest space
      else (.error ⟨error, answers⟩, space)

end OperationStep

/-- Moves a clock by the time that operations took. -/
def Answer.clockAfter (clock : Binary64) (answers : List Answer) : Binary64 :=
  answers.foldl (fun now answer =>
    match answer with
    | .waited duration => now.add duration
    | _ => now) clock

/-- Runs operations on a table of a store in one transaction. -/
def Store.performAll (store : Store) (mode : AccessMode) (table : String)
    (steps : List OperationStep) : Except OperationFailure (List Answer) × Store :=
  store.transaction (fun error => ⟨error, []⟩) mode table (OperationStep.performAll [] steps)

end LiveTable
