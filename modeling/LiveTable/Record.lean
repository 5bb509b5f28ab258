import LiveTable.OrderedMap
import LiveTable.Text.Split
import LiveTable.Value.Fingerprint
import LiveTable.Value.Order

/-!
# Records

A record is one stored object: its fields in ascending order of their names.  A field
is reached by its name, or by a path of names joined by points that descends into
nested objects; a field whose name is the whole path goes first.
-/

set_option autoImplicit false

namespace LiveTable

/-- A stored object. -/
structure Record where
  fields : OrderedMap String Value
deriving Repr, Inhabited

namespace Record

/-- The record without fields. -/
def empty : Record :=
  ⟨.empty⟩

/-- The record with the given fields; of fields with one name the last stays. -/
def ofList (fields : List (String × Value)) : Record :=
  ⟨.ofList fields⟩

/-- The record as a value. -/
def toValue (record : Record) : Value :=
  .object record.fields.entries

/-- The value of a top-level field. -/
def get? (record : Record) (field : String) : Option Value :=
  record.fields.get? field

/-- Whether the record has a top-level field. -/
def contains (record : Record) (field : String) : Bool :=
  record.fields.contains field

/-- The record with a top-level field set. -/
def set (record : Record) (field : String) (value : Value) : Record :=
  ⟨record.fields.insert field value⟩

/-- The record without a top-level field. -/
def erase (record : Record) (field : String) : Record :=
  ⟨record.fields.erase field⟩

/-- Descends from a value through nested objects along a list of names. -/
def descend (value : Value) : List String → Option Value
  | [] => some value
  | name :: rest =>
    match value with
    | .object fields =>
      match (OrderedMap.mk fields).get? name with
      | some inner => descend inner rest
      | none => none
    | _ => none

/-- The value at a path: the field of that very name, or else the nested value. -/
def getPath? (record : Record) (path : String) : Option Value :=
  match record.get? path with
  | some value => some value
  | none => descend record.toValue ((Text.splitAt '.' path.toList).map String.ofList)

/-- Equality of records: the same names with equal values. -/
def same (a b : Record) : Bool :=
  a.toValue.same b.toValue

instance : BEq Record where
  beq := same

/-- The lexicographic order of records as lists of fields. -/
def order (a b : Record) : Ordering :=
  a.toValue.order b.toValue

/-- What a record contributes to a hash: the number of its fields, then the fields. -/
def fingerprint (record : Record) : List Mark :=
  .length record.fields.size :: Value.fingerprintFields record.fields.entries

end Record

end LiveTable
