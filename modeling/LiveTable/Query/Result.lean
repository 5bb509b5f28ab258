import LiveTable.Json.Printer
import LiveTable.Query.Plan

/-!
# Results of queries

Running a descriptor answers with records, keys or a number, as its projection says,
or deletes the selected records and answers how many there were.
-/

set_option autoImplicit false

namespace LiveTable

/-- The answer of a query. -/
inductive QueryResult where
  | records (found : List Record)
  | count (total : Nat)
  | keys (found : List Value)
  | deleted (total : Nat)
  /-- The query was planned but not run. -/
  | unmaterialized
deriving Repr, Inhabited

namespace QueryResult

/-- The records, where the answer is made of records. -/
def records? : QueryResult → Option (List Record)
  | .records found => some found
  | _ => none

/-- The keys, where the answer is made of keys. -/
def keys? : QueryResult → Option (List Value)
  | .keys found => some found
  | _ => none

/-- The number, where the answer is one. -/
def count? : QueryResult → Option Nat
  | .count total => some total
  | .deleted total => some total
  | _ => none

/-- Equality of lists of records, record by record. -/
def sameRecords : List Record → List Record → Bool
  | [], [] => true
  | a :: restA, b :: restB => a.same b && sameRecords restA restB
  | _, _ => false

/-- Equality of answers. -/
def same : QueryResult → QueryResult → Bool
  | .records a, .records b => sameRecords a b
  | .count a, .count b => a == b
  | .keys a, .keys b => Value.sameItems a b
  | .deleted a, .deleted b => a == b
  | .unmaterialized, .unmaterialized => true
  | _, _ => false

/-- The interchange text of an answer, which does not tell its kind. -/
def written : QueryResult → List Char
  | .records found =>
    Json.writtenArray (found.map fun record => Json.writtenValue record.toValue)
  | .count total => Json.writtenNat total
  | .keys found => Json.writtenArray (found.map Json.writtenValue)
  | .deleted total => Json.writtenNat total
  | .unmaterialized => "null".toList

end QueryResult

namespace Descriptor

/-- Runs a planned collection as the projection of a descriptor says. -/
def project (projection : Projection) (collection : Collection) : Work QueryResult := do
  let table ← Work.table
  match projection with
  | .count => pure (.count (collection.count table))
  | .primaryKeys => pure (.keys (collection.keys table))
  | .erase => do pure (.deleted (← collection.delete))
  | .toArray => pure (.records (collection.records table))
  | .none => pure .unmaterialized

/-- Runs a descriptor on a table. -/
def run (descriptor : Descriptor) : Work QueryResult := do
  let table ← Work.table
  match descriptor.plan table.schema with
  | .error error => throw error
  | .ok collection => project descriptor.projection collection

end Descriptor

end LiveTable
