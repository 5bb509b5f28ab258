import LiveTable.Json.Printer
import LiveTable.Json.Reader
import LiveTable.Query.Descriptor

/-!
# Descriptors as interchange texts

Everything in a descriptor but its tests can be written and read back.  Fields that
are absent are not written, except those that have a default.  A value that is there
but null is written, and read back as absent.
-/

set_option autoImplicit false

namespace LiveTable

/-- A field of a structure that is written only where it is there. -/
def writtenOptional {α : Type} (name : String) (write : α → List Char) :
    Option α → List (String × List Char)
  | none => []
  | some content => [(name, write content)]

namespace Clause

mutual

/-- The interchange text of a clause. -/
def written : Clause → List Char
  | ⟨field?, operator, value?, parameter?, _, or?, and?⟩ =>
    Json.writtenObject (
      writtenOptional "field" Json.writtenString field? ++
      [("operator", Json.writtenString operator)] ++
      writtenOptional "value" Json.writtenValue value? ++
      writtenOptional "param" Json.writtenValue parameter? ++
      writtenBranch "or" or? ++ writtenBranch "and" and?)

/-- The field of a list of clauses, where there is one. -/
def writtenBranch (name : String) : Option (List Clause) → List (String × List Char)
  | none => []
  | some clauses => [(name, Json.writtenArray (writtenAll clauses))]

/-- The texts of clauses. -/
def writtenAll : List Clause → List (List Char)
  | [] => []
  | clause :: rest => written clause :: writtenAll rest

end

/-- The names of the fields of a clause, in their order. -/
def fieldNames : List String :=
  ["field", "operator", "value", "param", "or", "and"]

/-- Reads a clause nested at most `depth` levels. -/
def read? : Nat → Json.Tree → Option Clause
  | 0, _ => none
  | depth + 1, tree => do
    let parts ← Json.structureParts? fieldNames tree
    let readList : Json.Tree → Option (List Clause)
      | .array items =>
        match depth with
        | 0 => none
        | inner + 1 => items.mapM (read? inner)
      | _ => none
    let part (position : Nat) : Option Json.Tree := (parts[position]?).join
    let readValue := Json.readOptional? (Json.readValue? depth)
    let field? ← Json.readPart? (Json.readOptional? Json.readString?) none (part 0)
    let operator ← Json.readPart? Json.readString? "" (part 1)
    let value? ← Json.readPart? readValue none (part 2)
    let parameter? ← Json.readPart? readValue none (part 3)
    let or? ← Json.readPart? (Json.readOptional? readList) none (part 4)
    let and? ← Json.readPart? (Json.readOptional? readList) none (part 5)
    pure ⟨field?, operator, value?, parameter?, none, or?, and?⟩

/-- Reads a list of clauses nested at most `depth` levels, the list included. -/
def readAll? (depth : Nat) : Json.Tree → Option (List Clause)
  | .array items => if depth = 0 then none else items.mapM (read? (depth - 1))
  | _ => none

end Clause

namespace Descriptor

/-- The interchange text of a descriptor. -/
def written (descriptor : Descriptor) : List Char :=
  Json.writtenObject (
    Clause.writtenBranch "where" descriptor.where? ++
    writtenOptional "orderBy" Json.writtenString descriptor.orderBy? ++
    [("reverse", Json.writtenFlag descriptor.reverse)] ++
    writtenOptional "offset" Json.writtenNat descriptor.offset? ++
    writtenOptional "limit" Json.writtenNat descriptor.limit? ++
    [("count", Json.writtenFlag descriptor.count),
      ("primaryKeys", Json.writtenFlag descriptor.primaryKeys),
      ("erase", Json.writtenFlag descriptor.erase),
      ("toArray", Json.writtenFlag descriptor.toArray)])

/-- The names of the fields of a descriptor, in their order. -/
def fieldNames : List String :=
  ["where", "orderBy", "reverse", "offset", "limit", "count", "primaryKeys", "erase", "toArray"]

/-- Reads a descriptor. -/
def read? (tree : Json.Tree) : Option Descriptor := do
  let depth := Json.depthLimit - 1
  let parts ← Json.structureParts? fieldNames tree
  let part (position : Nat) : Option Json.Tree := (parts[position]?).join
  let readNat := Json.readOptional? Json.readNat?
  let where? ← Json.readPart? (Json.readOptional? (Clause.readAll? depth)) none (part 0)
  let orderBy? ← Json.readPart? (Json.readOptional? Json.readString?) none (part 1)
  let reverse ← Json.readPart? Json.readFlag? false (part 2)
  let offset? ← Json.readPart? readNat none (part 3)
  let limit? ← Json.readPart? readNat none (part 4)
  let count ← Json.readPart? Json.readFlag? false (part 5)
  let primaryKeys ← Json.readPart? Json.readFlag? false (part 6)
  let erase ← Json.readPart? Json.readFlag? false (part 7)
  let toArray ← Json.readPart? Json.readFlag? true (part 8)
  pure ⟨where?, orderBy?, reverse, offset?, limit?, none, count, primaryKeys, erase, toArray⟩

/-- The descriptor that a text denotes. -/
def ofText? (text : List Char) : Option Descriptor :=
  (Json.parse? text).bind read?

end Descriptor

end LiveTable
