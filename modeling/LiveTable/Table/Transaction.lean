import LiveTable.Table.Journal

/-!
# Transactions

A transaction reads, or reads and writes.  Its writes take effect at once and are
journaled, so that they can be undone.  A read-only transaction refuses every write
before it looks at the record.
-/

set_option autoImplicit false

namespace LiveTable

/-- What a transaction may do. -/
inductive AccessMode where
  | readOnly
  | readWrite
deriving Repr, DecidableEq, Inhabited

/-- A transaction under way. -/
structure Transaction where
  /-- The table that it was begun on. -/
  table : String
  mode : AccessMode
  journal : Journal
deriving Repr, Inhabited

namespace Transaction

/-- A new transaction on a table. -/
def begin (table : String) (mode : AccessMode) : Transaction :=
  ⟨table, mode, []⟩

/-- Refuses where the transaction must not write. -/
def checkWritable (transaction : Transaction) : Except Error Unit :=
  match transaction.mode with
  | .readOnly => .error (.readOnlyTransaction transaction.table)
  | .readWrite => .ok ()

/-- Notes a change. -/
def note (transaction : Transaction) (change : Change) : Transaction :=
  { transaction with journal := transaction.journal ++ [change] }

/-- Writes a record into a table; the answer is the key it went under. -/
def put (transaction : Transaction) (table : Table) (record : Record) (given? : Option Value) :
    Except Error (Value × Table × Transaction) := do
  transaction.checkWritable
  let (written, table) ← table.put record given?
  let change := Change.put table.name written.key written.record written.replaced?
  pure (written.key, table, transaction.note change)

/-- Deletes the record under a key of a table; the answer says whether there was one. -/
def delete (transaction : Transaction) (table : Table) (key : Value) :
    Except Error (Bool × Table × Transaction) := do
  transaction.checkWritable
  match table.get? key with
  | some deleted =>
    pure (true, table.erase key, transaction.note (.delete table.name key deleted))
  | none => pure (false, table, transaction)

end Transaction

end LiveTable
