import LiveTable.Error

/-!
# Faults of a schema

The rules that a schema can break, each with its wording.
-/

set_option autoImplicit false

namespace LiveTable

/-- A rule that a schema breaks. -/
inductive SchemaFault where
  | emptyName
  | badFirstCharacter (name : String)
  | badCharacter (name : String)
  | secondPrimaryKey (table : String)
  | repeatedIndex (field : String)
  | noPrimaryKey (table : String)
  | emptyDeclaration
  | versionZero
  | repeatedTable (name : String)
  | existingTable (name : String)
deriving Repr, DecidableEq

namespace SchemaFault

/-- The wording of a fault. -/
def message : SchemaFault → String
  | .emptyName => "Name cannot be empty"
  | .badFirstCharacter name => s!"Name must start with letter, underscore or $: {name}"
  | .badCharacter name => s!"Name contains invalid characters: {name}"
  | .secondPrimaryKey table => s!"Primary key already declared for table: {table}"
  | .repeatedIndex field => s!"Index already exists: {field}"
  | .noPrimaryKey table => s!"Table has no primary key: {table}"
  | .emptyDeclaration => "Declaration has no primary key"
  | .versionZero => "Schema version must be positive"
  | .repeatedTable name => s!"Table declared twice: {name}"
  | .existingTable name => s!"Table already exists: {name}"

/-- The fault as an error. -/
def toError (fault : SchemaFault) : Error :=
  .invalidSchema fault.message

end SchemaFault

end LiveTable
