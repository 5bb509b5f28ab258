import LiveTable.Json.Printer
import LiveTable.Schema.Table

/-!
# Store schemas

A store schema is a version and a list of table schemas.  It is usable when the
version is positive and no two tables share a name.
-/

set_option autoImplicit false

namespace LiveTable

/-- The declared shape of a store. -/
structure StoreSchema where
  version : Nat
  tables : List TableSchema
deriving Repr, DecidableEq, Inhabited

namespace StoreSchema

/-- The schema of a version without tables. -/
def ofVersion (version : Nat) : StoreSchema :=
  ⟨version, []⟩

/-- Adds a table. -/
def withTable (schema : StoreSchema) (table : TableSchema) : StoreSchema :=
  { schema with tables := schema.tables ++ [table] }

/-- Reads a declaration and adds its table. -/
def declare (schema : StoreSchema) (name declaration : String) :
    Except SchemaFault StoreSchema := do
  let table ← TableSchema.parse name declaration
  pure (schema.withTable table)

/-- The first table of that name. -/
def table? (schema : StoreSchema) (name : String) : Option TableSchema :=
  schema.tables.find? (·.name == name)

/-- The first table name that occurs among the names in front of it. -/
def repeatedName? (seen : List String) : List TableSchema → Option String
  | [] => none
  | table :: rest =>
    if seen.contains table.name then some table.name
    else repeatedName? (table.name :: seen) rest

/-- Accepts a usable schema. -/
def validate (schema : StoreSchema) : Except SchemaFault Unit :=
  if schema.version = 0 then .error .versionZero
  else
    match repeatedName? [] schema.tables with
    | some name => .error (.repeatedTable name)
    | none => .ok ()

/-- The interchange text of a table schema. -/
def writtenTable (table : TableSchema) : List Char :=
  Json.writtenObject [
    ("name", Json.writtenString table.name),
    ("primary_key", Json.writtenString table.primaryKey),
    ("auto_increment", Json.writtenFlag table.autoIncrement),
    ("indexes", Json.writtenArray (table.indexes.map Json.writtenString))]

/-- The interchange text of a schema. -/
def written (schema : StoreSchema) : List Char :=
  Json.writtenObject [
    ("version", Json.writtenNat schema.version),
    ("tables", Json.writtenArray (schema.tables.map writtenTable))]

end StoreSchema

end LiveTable
