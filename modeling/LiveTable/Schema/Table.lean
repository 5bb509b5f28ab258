import LiveTable.Schema.Fault
import LiveTable.Text.Blank
import LiveTable.Text.Split

/-!
# Table schemas

A table schema names the primary key field and the index fields of a table.  It is
drafted step by step, each step checking its field against the rules and against the
steps before it, or read from a declaration such as `++id, name, &email`: entries
separated by commas, the primary key first, `++` in front of it for keys that the
store allocates.  The markers `&` and `*` in front of an index are allowed and mean nothing.
-/

set_option autoImplicit false

namespace LiveTable

/-- The definition of a table. -/
structure TableSchema where
  name : String
  primaryKey : String
  autoIncrement : Bool
  indexes : List String
deriving Repr, DecidableEq, Inhabited

/-- Whether a character may begin a name. -/
def isNameStart (c : Char) : Bool :=
  ('a' ≤ c && c ≤ 'z') || ('A' ≤ c && c ≤ 'Z') || c = '_' || c = '$'

/-- Whether a character may occur in a name. -/
def isNamePart (c : Char) : Bool :=
  isNameStart c || ('0' ≤ c && c ≤ '9') || c = '.'

/-- The rule that a name breaks, if it breaks one. -/
def nameFault? (name : String) : Option SchemaFault :=
  match name.toList with
  | [] => some .emptyName
  | first :: rest =>
    if !isNameStart first then some (.badFirstCharacter name)
    else if !(first :: rest).all isNamePart then some (.badCharacter name)
    else none

/-- Passes a legal name on. -/
def checkName (name : String) : Except SchemaFault Unit :=
  match nameFault? name with
  | some fault => .error fault
  | none => .ok ()

/-- A table schema that is being put together. -/
structure TableDraft where
  name : String
  primaryKey? : Option (String × Bool)
  indexes : List String
deriving Repr, DecidableEq

namespace TableDraft

/-- The draft of a table with nothing but its name. -/
def start (name : String) : Except SchemaFault TableDraft := do
  checkName name
  pure ⟨name, none, []⟩

/-- Declares the primary key, which is possible once. -/
def withPrimaryKey (draft : TableDraft) (field : String) (autoIncrement : Bool) :
    Except SchemaFault TableDraft := do
  checkName field
  if draft.primaryKey?.isSome then throw (.secondPrimaryKey draft.name)
  pure { draft with primaryKey? := some (field, autoIncrement) }

/-- Whether a field is declared already. -/
def declares (draft : TableDraft) (field : String) : Bool :=
  draft.indexes.contains field || draft.primaryKey?.any (·.1 == field)

/-- Declares an index on a field that is not declared yet. -/
def withIndex (draft : TableDraft) (field : String) : Except SchemaFault TableDraft := do
  checkName field
  if draft.declares field then throw (.repeatedIndex field)
  pure { draft with indexes := draft.indexes ++ [field] }

/-- The finished schema, which needs a primary key. -/
def finish (draft : TableDraft) : Except SchemaFault TableSchema :=
  match draft.primaryKey? with
  | none => .error (.noPrimaryKey draft.name)
  | some (primaryKey, autoIncrement) =>
    .ok ⟨draft.name, primaryKey, autoIncrement, draft.indexes⟩

end TableDraft

namespace TableSchema

/-- The entries of a declaration: what stands between commas, without blanks, if anything does. -/
def entries (declaration : List Char) : List (List Char) :=
  ((Text.splitAt ',' declaration).map Text.trim).filter (!·.isEmpty)

/-- Separates the mark of allocated keys from the name of a primary key. -/
def splitMark : List Char → List Char × Bool
  | '+' :: '+' :: field => (field, true)
  | field => (field, false)

/-- Removes the markers in front of an index. -/
def withoutMarkers (entry : List Char) : List Char :=
  entry.dropWhile fun c => c = '&' || c = '*'

/-- Reads a table schema from its declaration. -/
def parse (name declaration : String) : Except SchemaFault TableSchema :=
  match entries declaration.toList with
  | [] => .error .emptyDeclaration
  | primary :: others => do
    let (field, autoIncrement) := splitMark primary
    let draft ← TableDraft.start name
    let draft ← draft.withPrimaryKey (String.ofList field) autoIncrement
    let draft ← others.foldlM
      (fun draft entry => draft.withIndex (String.ofList (withoutMarkers entry))) draft
    draft.finish

/-- Whether a field is the primary key or an index. -/
def isIndexed (schema : TableSchema) (field : String) : Bool :=
  schema.primaryKey == field || schema.indexes.contains field

end TableSchema

end LiveTable
