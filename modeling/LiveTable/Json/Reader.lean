import LiveTable.Json.Scalar
import LiveTable.Json.Tree
import LiveTable.Record

/-!
# Reading values from interchange texts

A reader takes a tree to a typed value or refuses it.  Containers that are read may
be nested to a limit; the `depth` of a reader is the number of levels still allowed.

A structure may be written as an object or as an array of its fields in their order.
In an object each known field occurs at most once and other fields are passed over,
whatever they hold; in an array no item may follow the last field.  A field that is
missing takes its default.
-/

set_option autoImplicit false

namespace LiveTable.Json

/-- How deeply containers may be nested in a text that is read. -/
def depthLimit : Nat :=
  127

mutual

/-- A value of any kind; of repeated names in an object the last stays. -/
def readValue? (depth : Nat) : Tree → Option Value
  | .null => some .null
  | .boolean flag => some (.boolean flag)
  | .number numeral =>
    match numeral.toInteger? with
    | some number => some (.integer number)
    | none => numeral.toFloat?.map Value.float
  | .text content => content.map Value.string
  | .array items =>
    if depth = 0 then none else (readItems? (depth - 1) items).map Value.array
  | .object fields =>
    if depth = 0 then none
    else (readFields? (depth - 1) fields).map fun found =>
      Value.object (OrderedMap.ofList found).entries

/-- The items of an array. -/
def readItems? (depth : Nat) : List Tree → Option (List Value)
  | [] => some []
  | item :: rest =>
    match readValue? depth item, readItems? depth rest with
    | some value, some values => some (value :: values)
    | _, _ => none

/-- The fields of an object, in the order in which they are written. -/
def readFields? (depth : Nat) : List (Content × Tree) → Option (List (String × Value))
  | [] => some []
  | (name, item) :: rest =>
    match name, readValue? depth item, readFields? depth rest with
    | some name, some value, some fields => some ((name, value) :: fields)
    | _, _, _ => none

end

/-- The value that a text denotes. -/
def valueOfText? (text : List Char) : Option Value :=
  (parse? text).bind (readValue? depthLimit)

/-- The record that a text denotes, which must be an object. -/
def recordOfText? (text : List Char) : Option Record :=
  match valueOfText? text with
  | some (.object fields) => some ⟨⟨fields⟩⟩
  | _ => none

/-- A truth value. -/
def readFlag? : Tree → Option Bool
  | .boolean flag => some flag
  | _ => none

/-- A natural number of 64 bits. -/
def readNat? : Tree → Option Nat
  | .number numeral => numeral.toWord?
  | _ => none

/-- A text. -/
def readString? : Tree → Option String
  | .text content => content
  | _ => none

/-- Something that may be absent, where null stands for its absence. -/
def readOptional? {α : Type} (read : Tree → Option α) : Tree → Option (Option α)
  | .null => some none
  | tree => (read tree).map some

/-- What stands in the place of each named field of a structure, if anything does. -/
def structureParts? (names : List String) : Tree → Option (List (Option Tree))
  | .array items =>
    if items.length ≤ names.length then
      some (items.map some ++ List.replicate (names.length - items.length) none)
    else none
  | .object fields =>
    if fields.all (·.1.isSome) then
      names.mapM fun name =>
        match fields.filter (·.1 = some name) with
        | [] => some none
        | [field] => some (some field.2)
        | _ => none
    else none
  | _ => none

/-- Reads the part of a structure in the place of a field, or takes its default. -/
def readPart? {α : Type} (read : Tree → Option α) (default : α) : Option Tree → Option α
  | none => some default
  | some tree => read tree

end LiveTable.Json
