import LiveTable.Record
import LiveTable.Value.Display

/-!
# Records by id

The value of an id field picks a record out of a list.  Collected by id, the records
come in the order of their ids, and of neighbours with equal ids the last stays.  Ids
that are the same key without being equal, such as the integer 1 and the floating
point number 1, are both there, in the order of the list.
-/

set_option autoImplicit false

namespace LiveTable

/-- Records in the order of their ids. -/
abbrev Items := OrderedMap Value Record

namespace Items

/-- The records that have a value for the id field, each with that value. -/
def identified (idField : String) (records : List Record) : List (Value × Record) :=
  records.filterMap fun record => (record.getPath? idField).map fun id => (id, record)

/-- Drops every entry that is followed by one with an equal id. -/
def dropRepeated : List (Value × Record) → List (Value × Record)
  | entry :: next :: rest =>
    if entry.1.same next.1 then dropRepeated (next :: rest)
    else entry :: dropRepeated (next :: rest)
  | entries => entries

/-- The records in the order of their ids. -/
def collect (idField : String) (records : List Record) : Items :=
  ⟨dropRepeated ((identified idField records).mergeSort fun a b => a.1.notAfter b.1)⟩

/-- An id as the name of a field: a text as it stands, any other value as messages show it. -/
def nameOf (id : Value) : String :=
  match id with
  | .string text => text
  | _ => id.toText

/-- The records by the names of their ids; of records of one name the last stays. -/
def named (idField : String) (records : List Record) : OrderedMap String Record :=
  .ofList ((identified idField records).map fun entry => (nameOf entry.1, entry.2))

/-- The ids in order. -/
def ids (idField : String) (records : List Record) : List Value :=
  (collect idField records).keys

end Items

end LiveTable
