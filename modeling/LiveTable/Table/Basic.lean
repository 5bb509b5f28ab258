import LiveTable.Record
import LiveTable.Schema.Fault
import LiveTable.Schema.Table

/-!
# Tables

A table holds records under keys, in the order of the keys, and the next key that it
will allocate.

The key of a record that is written is, in this order: a key given explicitly, the
value of its primary key field, an allocated key.  Null counts as no key.  Unless the
name of the primary key is a path, a given or allocated key is also set in the record.
Writing under a key that is already there replaces the record and keeps the key as
it is stored.

The next key to allocate stays above every integer key that was ever written; at the
greatest integer it stops there.
-/

set_option autoImplicit false

namespace LiveTable

/-- The rows of a table in the order of their keys. -/
abbrev Rows := OrderedMap Value Record

/-- A table: its schema, its rows and the next key to allocate. -/
structure Table where
  schema : TableSchema
  rows : Rows
  nextKey : Int64
deriving Repr, Inhabited

/-- What a write was resolved to: a key, the record as stored, and what it replaced. -/
structure Written where
  key : Value
  record : Record
  replaced? : Option Record

namespace Table

/-- The table of a schema without rows. -/
def ofSchema (schema : TableSchema) : Table :=
  ⟨schema, .empty, 1⟩

/-- The name of the table. -/
def name (table : Table) : String :=
  table.schema.name

/-- The record stored under a key. -/
def get? (table : Table) (key : Value) : Option Record :=
  table.rows.get? key

/-- Whether a record is stored under a key. -/
def contains (table : Table) (key : Value) : Bool :=
  table.rows.contains key

/-- Whether the name of the primary key is a path into nested objects. -/
def hasKeyPath (table : Table) : Bool :=
  table.schema.primaryKey.toList.contains '.'

/-- The record with a key set in its primary key field, unless that is a path. -/
def withKey (table : Table) (record : Record) (key : Value) : Record :=
  if table.hasKeyPath then record else record.set table.schema.primaryKey key

/-- A key, unless it is null. -/
def usable? : Option Value → Option Value
  | some key => if key.isNull then none else some key
  | none => none

/-- The key that a record is to be stored under, and the record as it will be stored. -/
def resolve (table : Table) (record : Record) (given? : Option Value) :
    Except Error (Value × Record) :=
  match usable? given? with
  | some key => .ok (key, table.withKey record key)
  | none =>
    match usable? (record.getPath? table.schema.primaryKey) with
    | some key => .ok (key, record)
    | none =>
      if table.schema.autoIncrement then
        let key := Value.integer table.nextKey
        .ok (key, table.withKey record key)
      else .error (.missingKey table.name)

/-- The integer after `n`, or the greatest integer if there is none. -/
def successor (n : Int64) : Int64 :=
  if n = Int64.maxValue then n else n + 1

/-- The next key to allocate once a key has been written. -/
def nextAfter (nextKey : Int64) : Value → Int64
  | .integer n => if nextKey.toInt ≤ n.toInt then successor n else nextKey
  | _ => nextKey

/-- Writes a record. -/
def put (table : Table) (record : Record) (given? : Option Value) :
    Except Error (Written × Table) := do
  let (key, record) ← table.resolve record given?
  let written := ⟨key, record, table.get? key⟩
  pure (written, { table with
    rows := table.rows.insert key record
    nextKey := nextAfter table.nextKey key })

/-- Removes the record under a key. -/
def erase (table : Table) (key : Value) : Table :=
  { table with rows := table.rows.erase key }

/-- Puts a former state of a key back: a record, or none. -/
def restore (table : Table) (key : Value) : Option Record → Table
  | some record => { table with rows := table.rows.insert key record }
  | none => table.erase key

/-- Removes every row. -/
def clear (table : Table) : Table :=
  { table with rows := .empty }

/-- The rows in the order of their keys. -/
def scan (table : Table) : List (Value × Record) :=
  table.rows.entries

/-- The value of an index field, where it is there and not null. -/
def indexed? (record : Record) (field : String) : Option Value :=
  usable? (record.getPath? field)

/-- The order of rows by the value of a field, an absent value first, then by key. -/
def rowOrder (field : String) (a b : Value × Record) : Ordering :=
  let values :=
    match a.2.getPath? field, b.2.getPath? field with
    | none, none => Ordering.eq
    | none, some _ => .lt
    | some _, none => .gt
    | some valueA, some valueB => valueA.order valueB
  values.then (a.1.order b.1)

/-- Rows sorted by the value of a field, then by key. -/
def sortedBy (field : String) (rows : List (Value × Record)) : List (Value × Record) :=
  rows.mergeSort fun a b => (rowOrder field a b).isLE

/--
The rows in the order of an index: those that have a value for the field, by that
value and then by key.  The index of the primary key is the table itself.
-/
def scanBy (table : Table) (field : String) : List (Value × Record) :=
  if field = table.schema.primaryKey then table.scan
  else sortedBy field (table.scan.filter fun row => (indexed? row.2 field).isSome)

end Table

/-- Tables by name. -/
abbrev Tables := OrderedMap String Table

namespace Tables

/-- Adds an empty table, unless there is one of that name. -/
def create (tables : Tables) (schema : TableSchema) : Except SchemaFault Tables :=
  if tables.contains schema.name then .error (.existingTable schema.name)
  else .ok (tables.insert schema.name (.ofSchema schema))

/-- Removes a table. -/
def drop (tables : Tables) (name : String) : Except Error Tables :=
  if tables.contains name then .ok (tables.erase name) else .error (.tableNotFound name)

/-- The number of records in all tables. -/
def recordCount (tables : Tables) : Nat :=
  tables.values.foldl (fun count table => count + table.rows.size) 0

end Tables

end LiveTable
