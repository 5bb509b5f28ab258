import LiveTable.Table.Basic

/-!
# Changes and the journal

A change says what a write did under one key of one table: the record before it and
the record after it.  A journal lists the changes of a transaction in the order in which they were
made; undoing it puts the former records back, the latest change first.
-/

set_option autoImplicit false

namespace LiveTable

/-- What a change did. -/
inductive ChangeKind where
  | create
  | update
  | delete
deriving Repr, DecidableEq

/-- The name of what a change did. -/
def ChangeKind.name : ChangeKind → String
  | .create => "create"
  | .update => "update"
  | .delete => "delete"

/-- A change of what is stored under one key. -/
structure Change where
  table : String
  key : Value
  /-- The record afterwards; none where it was deleted. -/
  after? : Option Record
  /-- The record before; none where there was none. -/
  before? : Option Record
deriving Repr, Inhabited

namespace Change

/-- A record was put under a key. -/
def put (table : String) (key : Value) (record : Record) (replaced? : Option Record) : Change :=
  ⟨table, key, some record, replaced?⟩

/-- The record under a key was deleted. -/
def delete (table : String) (key : Value) (deleted : Record) : Change :=
  ⟨table, key, none, some deleted⟩

/-- What the change did. -/
def kind (change : Change) : ChangeKind :=
  match change.after?, change.before? with
  | some _, none => .create
  | some _, some _ => .update
  | none, _ => .delete

end Change

/-- Changes in the order in which they were made. -/
abbrev Journal := List Change

namespace Journal

/-- Takes one change back, where its table is still there. -/
def undoChange (tables : Tables) (change : Change) : Tables :=
  tables.modify change.table fun table => table.restore change.key change.before?

/-- Takes every change back, the latest first. -/
def undo (journal : Journal) (tables : Tables) : Tables :=
  journal.reverse.foldl undoChange tables

end Journal

end LiveTable
