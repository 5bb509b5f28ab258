import LiveTable.Table.Transaction

/-!
# Work on a table

A workspace is one table inside a transaction.  Work on it may fail; what it wrote
until then is still there and in the journal, for the transaction to undo.
-/

set_option autoImplicit false

namespace LiveTable

/-- A table inside a transaction. -/
structure Workspace where
  table : Table
  transaction : Transaction
deriving Repr, Inhabited

/-- Work on a table, which may fail. -/
abbrev Work (α : Type) := ExceptT Error (StateM Workspace) α

namespace Work

/-- Reads the workspace. -/
def workspace : Work Workspace :=
  get

/-- Reads the table. -/
def table : Work Table := do
  pure (← workspace).table

/-- Writes a record; the answer is its key. -/
def put (record : Record) (given? : Option Value) : Work Value := do
  let space ← workspace
  match space.transaction.put space.table record given? with
  | .error error => throw error
  | .ok (key, table, transaction) =>
    set (Workspace.mk table transaction)
    pure key

/-- Writes records one after the other; the answer is the last key, or null. -/
def putAll (records : List Record) : Work Value :=
  records.foldlM (fun _ record => put record none) .null

/-- Deletes the record under a key; the answer says whether there was one. -/
def delete (key : Value) : Work Bool := do
  let space ← workspace
  match space.transaction.delete space.table key with
  | .error error => throw error
  | .ok (deleted, table, transaction) =>
    set (Workspace.mk table transaction)
    pure deleted

/-- Deletes the records under keys; the answer is how many there were. -/
def deleteAll (keys : List Value) : Work Nat :=
  keys.foldlM (fun count key => do pure (if ← delete key then count + 1 else count)) 0

/-- Deletes every record; the answer is how many there were. -/
def clear : Work Nat := do
  deleteAll (← table).rows.keys

end Work

end LiveTable
