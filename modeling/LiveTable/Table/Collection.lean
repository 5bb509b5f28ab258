import LiveTable.Condition
import LiveTable.Table.Workspace

/-!
# Collections

A collection selects rows of a table.  It is a list of steps: a match step selects
the rows whose field satisfies a condition, the first one to begin with and every
later one in addition; a filter step keeps the rows selected so far that a test
accepts.  Without a match step all rows are selected, or those of an index if the
collection is ordered by one, and every filter applies.

A collection that begins with its only match step comes in the order of the matched
field; every other selection by matches comes in the order of the keys.  Reversal,
offset and limit apply at the end, in this order.
-/

set_option autoImplicit false

namespace LiveTable

/-- One step of a collection. -/
inductive Step where
  /-- Selects rows whose field satisfies a condition. -/
  | select (field : String) (condition : Condition)
  /-- Keeps selected rows that a test accepts. -/
  | keep (test : Record → Bool)

/-- A selection of rows, described. -/
structure Collection where
  /-- The index that orders the rows where no step selects. -/
  order? : Option String
  steps : List Step
  reversed : Bool
  offset : Nat
  limit? : Option Nat

namespace Collection

/-- All rows, in the order of their keys. -/
def all : Collection :=
  ⟨none, [], false, 0, none⟩

/-- All rows of an index, in its order. -/
def orderedBy (field : String) : Collection :=
  { all with order? := some field }

/-- Adds a step. -/
def withStep (collection : Collection) (step : Step) : Collection :=
  { collection with steps := collection.steps ++ [step] }

/-- Selects rows, in addition to those selected already. -/
def matching (collection : Collection) (field : String) (condition : Condition) : Collection :=
  collection.withStep (.select field condition)

/-- Keeps selected rows that a test accepts. -/
def filter (collection : Collection) (test : Record → Bool) : Collection :=
  collection.withStep (.keep test)

/-- Turns the order round. -/
def reverse (collection : Collection) : Collection :=
  { collection with reversed := !collection.reversed }

/-- Leaves out the first rows. -/
def skip (collection : Collection) (count : Nat) : Collection :=
  { collection with offset := count }

/-- Ends after a number of rows. -/
def take (collection : Collection) (count : Nat) : Collection :=
  { collection with limit? := some count }

/-- Whether a step selects rows. -/
def isSelect : Step → Bool
  | .select _ _ => true
  | .keep _ => false

/-- Whether every filter of a list of steps accepts a record. -/
def accepts (steps : List Step) (record : Record) : Bool :=
  steps.all fun step =>
    match step with
    | .keep test => test record
    | .select _ _ => true

/-- Takes one step: what is selected before it, if anything was, becomes what is selected after. -/
def advance (table : Table) (selected? : Option Rows) (step : Step) : Option Rows :=
  match step with
  | .select field condition =>
    let found := table.scan.filter fun row => condition.holds (row.2.getPath? field)
    some (found.foldl (fun rows row => rows.insert row.1 row.2) (selected?.getD .empty))
  | .keep test => some ((selected?.getD table.rows).filter fun _ record => test record)

/-- The rows that the steps select, in the order before any reversal. -/
def ordered (collection : Collection) (table : Table) : List (Value × Record) :=
  if collection.steps.any isSelect then
    let selected := ((collection.steps.foldl (advance table) none).getD .empty).entries
    match collection.steps with
    | .select field _ :: rest => if rest.any isSelect then selected else Table.sortedBy field selected
    | _ => selected
  else
    let scanned :=
      match collection.order? with
      | some field => table.scanBy field
      | none => table.scan
    scanned.filter fun row => accepts collection.steps row.2

/-- The selected rows. -/
def rows (collection : Collection) (table : Table) : List (Value × Record) :=
  let ordered := collection.ordered table
  let directed := if collection.reversed then ordered.reverse else ordered
  let rest := directed.drop collection.offset
  match collection.limit? with
  | some count => rest.take count
  | none => rest

/-- The keys of the selected rows. -/
def keys (collection : Collection) (table : Table) : List Value :=
  (collection.rows table).map Prod.fst

/-- The selected records. -/
def records (collection : Collection) (table : Table) : List Record :=
  (collection.rows table).map Prod.snd

/-- The number of selected rows. -/
def count (collection : Collection) (table : Table) : Nat :=
  (collection.rows table).length

/-- Deletes the selected rows; the answer is how many were deleted. -/
def delete (collection : Collection) : Work Nat := do
  Work.deleteAll (collection.keys (← Work.table))

/-- The collection in the order of a field, which must be indexed. -/
def orderedByIndex (schema : TableSchema) (field : String) : Except Error Collection :=
  if schema.isIndexed field then .ok (orderedBy field)
  else
    let table := schema.name
    .error (.invalidOperation s!"Field {field} is not indexed in table {table}")

end Collection

end LiveTable
