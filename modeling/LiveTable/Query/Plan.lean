import LiveTable.Query.Comparison
import LiveTable.Query.Descriptor
import LiveTable.Table.Collection

/-!
# Plans

The plan of a descriptor is the collection that it describes.  The clauses are taken
in order, each one's own comparison first, then the clauses of its `or` list, then
those of its `and` list, and each contributes a step to the same collection.

A comparison joined by `and` keeps selected rows; any other adds rows.  A test always
keeps selected rows.  At the top every clause is joined by `where`.  A clause without
field and test under that join is missing: the clauses in its lists act as if they
stood at the top, up to the first that contributes.
-/

set_option autoImplicit false

namespace LiveTable

/-- How a clause is joined to the clauses before it. -/
inductive Join where
  | where
  | or
  | and
deriving Repr, DecidableEq

namespace Clause

/-- Whether the clause contributes nothing where it could begin a selection. -/
def isMissing (clause : Clause) (join : Join) : Bool :=
  join = .where && clause.fieldName?.isNone && clause.test?.isNone

/-- Adds the step of the clause itself. -/
def attach (clause : Clause) (join : Join) (collection : Collection) :
    Except Error Collection :=
  match clause.test? with
  | some test =>
    let parameter := clause.parameter?.getD .null
    .ok (collection.filter fun record => test.accepts record parameter)
  | none =>
    match clause.fieldName? with
    | none => .ok collection
    | some field => do
      let condition ← Condition.ofComparison clause.operator clause.value?
      match join with
      | .and => pure (collection.filter fun record => condition.holds (record.getPath? field))
      | _ => pure (collection.matching field condition)

/-- The join of a clause in a list, given that of the list and whether it is overruled. -/
def joinIn (join? : Option Join) (fresh : Bool) : Join :=
  match join?, fresh with
  | some join, false => join
  | _, _ => .where

/-- Whether the clause contributes nothing where it stands in a list. -/
def isMissingIn (clause : Clause) (join? : Option Join) (fresh : Bool) : Bool :=
  clause.isMissing (joinIn join? fresh)

/-- Adds the step of the clause itself, unless it contributes nothing. -/
def attachOwn (clause : Clause) (join? : Option Join) (fresh : Bool) (collection : Collection) :
    Except Error Collection :=
  if clause.isMissingIn join? fresh then .ok collection
  else clause.attach (joinIn join? fresh) collection

mutual

/-- Adds the steps of a clause and of all clauses below it. -/
def attachTree (join? : Option Join) (fresh : Bool) (collection : Collection) :
    Clause → Except Error Collection
  | ⟨field?, operator, value?, parameter?, test?, or?, and?⟩ => do
    let own : Clause := ⟨field?, operator, value?, parameter?, test?, none, none⟩
    let missing := own.isMissingIn join? fresh
    let collection ← own.attachOwn join? fresh collection
    let collection ← attachBranch .or missing collection or?
    attachBranch .and missing collection and?

/--
Adds the steps of a list of clauses and of all clauses below them.  While `fresh` is
set the clauses act as if they stood at the top.
-/
def attachAll (join? : Option Join) (fresh : Bool) (collection : Collection) :
    List Clause → Except Error Collection
  | [] => .ok collection
  | clause :: rest => do
    let collection ← attachTree join? fresh collection clause
    attachAll join? (fresh && clause.isMissingIn join? fresh) collection rest

/-- Adds the steps of a list of clauses below another clause, if there is such a list. -/
def attachBranch (join : Join) (fresh : Bool) (collection : Collection) :
    Option (List Clause) → Except Error Collection
  | none => .ok collection
  | some clauses => attachAll (some join) fresh collection clauses

end

end Clause

namespace Descriptor

/-- The index that orders the rows, if the descriptor asks for one that exists. -/
def order? (descriptor : Descriptor) (schema : TableSchema) : Option String :=
  descriptor.orderBy?.filter schema.isIndexed

/-- The selection of a descriptor, before its test and its window. -/
def selection (descriptor : Descriptor) (schema : TableSchema) : Except Error Collection :=
  match descriptor.clauses? with
  | some clauses => Clause.attachAll none false .all clauses
  | none =>
    match descriptor.order? schema with
    | some field => Collection.orderedByIndex schema field
    | none => .ok .all

/-- Adds the test, the direction and the window of a descriptor. -/
def finish (descriptor : Descriptor) (collection : Collection) : Collection :=
  let collection :=
    match descriptor.test? with
    | some test => collection.filter test.accepts
    | none => collection
  let collection := if descriptor.reverse then collection.reverse else collection
  let collection :=
    match descriptor.offset? with
    | some count => collection.skip count
    | none => collection
  match descriptor.limit? with
  | some count => collection.take count
  | none => collection

/-- The collection that a descriptor describes on tables of a schema. -/
def plan (descriptor : Descriptor) (schema : TableSchema) : Except Error Collection := do
  pure (descriptor.finish (← descriptor.selection schema))

end Descriptor

end LiveTable
