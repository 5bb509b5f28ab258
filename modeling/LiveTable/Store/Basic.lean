import LiveTable.Schema.Store
import LiveTable.Table.Workspace

/-!
# Stores

A store is a set of tables behind a door.  The tables are created the first time it
opens; closing it keeps them.  While it is blocked it cannot be opened.

A transaction runs work on one table of an open store.  Work that succeeds is
committed: its changes, if there are any, are put into the outbox as one batch.  Work
that fails is undone.
-/

set_option autoImplicit false

namespace LiveTable

/-- A named set of tables. -/
structure Store where
  name : String
  schema : StoreSchema
  tables : Tables
  isOpen : Bool
  /-- Whether the tables have been created. -/
  isCreated : Bool
  /-- Why the store cannot be opened at present. -/
  blocked? : Option String
  /-- The changes of committed transactions that nobody has been told of, oldest first. -/
  outbox : List (List Change)
deriving Repr, Inhabited

namespace Store

/-- A closed store without tables. -/
def ofSchema (name : String) (schema : StoreSchema) : Store :=
  ⟨name, schema, .empty, false, false, none, []⟩

/-- The tables that a list of schemas declares. -/
def createTables (schemas : List TableSchema) : Except SchemaFault Tables :=
  schemas.foldlM Tables.create .empty

/-- The tables of a usable schema. -/
def declaredTables (schema : StoreSchema) : Except SchemaFault Tables := do
  schema.validate
  createTables schema.tables

/-- Opens the store; the first time this creates its tables. -/
def open? (store : Store) : Except Error Store :=
  if store.isOpen then .ok store
  else
    match store.blocked? with
    | some reason => .error (.storeNotOpenable reason)
    | none =>
      if store.isCreated then .ok { store with isOpen := true }
      else
        match declaredTables store.schema with
        | .error fault => .error (.storeNotOpenable fault.toError.message)
        | .ok tables => .ok { store with isOpen := true, isCreated := true, tables := tables }

/-- Closes the store. -/
def close (store : Store) : Store :=
  { store with isOpen := false }

/-- Blocks the store for a reason, or lifts the block. -/
def block (store : Store) (reason? : Option String) : Store :=
  { store with blocked? := reason? }

/-- The batches after one more, which counts only if it is not empty. -/
def enqueue (outbox : List (List Change)) (batch : List Change) : List (List Change) :=
  if batch.isEmpty then outbox else outbox ++ [batch]

/-- Puts a batch of changes into the outbox. -/
def publish (store : Store) (batch : List Change) : Store :=
  { store with outbox := enqueue store.outbox batch }

/--
Runs work on a table.  The work has failures of its own kind; `refuse` makes one of an
error that keeps the work from beginning.
-/
def transaction {Failure α : Type} (refuse : Error → Failure) (store : Store)
    (mode : AccessMode) (name : String) (work : Workspace → Except Failure α × Workspace) :
    Except Failure α × Store :=
  if !store.isOpen then (.error (refuse .storeClosed), store)
  else
    match store.tables.get? name with
    | none => (.error (refuse (.tableNotFound name)), store)
    | some table =>
      let (outcome, space) := work ⟨table, .begin name mode⟩
      let worked := store.tables.modify name fun _ => space.table
      match outcome with
      | .ok answer =>
        (.ok answer, { store with tables := worked }.publish space.transaction.journal)
      | .error failure =>
        (.error failure, { store with tables := space.transaction.journal.undo worked })

end Store

end LiveTable
