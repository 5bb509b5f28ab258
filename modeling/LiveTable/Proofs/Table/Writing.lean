import LiveTable.Proofs.OrderedMap
import LiveTable.Proofs.Value.TotalOrder
import LiveTable.Table.Workspace
import Mathlib.Data.List.Basic

/-!
# What writing does to a table

Every write of a transaction is one change: the change says what was stored under its
key before, the rows afterwards are those that it makes of the rows before, and it
ends the journal.  `Table.Changed` is that statement; `Workspace.Writes` is a sequence
of such writes.

Work on a table is `Journaled` when all that it does to its workspace is such a
sequence, whether it succeeds or fails.  Work that is put together from reading,
putting and deleting is journaled.
-/

set_option autoImplicit false

namespace LiveTable

/-! ## Changes of one table -/

/-- The rows that a change makes of those before it. -/
def Change.applyTo (change : Change) (rows : Rows) : Rows :=
  match change.after? with
  | some record => rows.insert change.key record
  | none => rows.erase change.key

/-- A change is what happened between two states of a table. -/
structure Table.Changed (before : Table) (change : Change) (after : Table) : Prop where
  name : change.table = before.name
  held : change.before? = before.get? change.key
  schema : after.schema = before.schema
  rows : after.rows = change.applyTo before.rows

theorem Change.applyTo_ascending
    (change : Change) {rows : Rows} (ascending : rows.Ascending) :
    (change.applyTo rows).Ascending := by
  rw [applyTo]
  split
  · exact ascending.insert _ _
  · exact ascending.erase _

theorem Change.get?_applyTo
    (change : Change) (rows : Rows) (key : Value) :
    (change.applyTo rows).get? key =
      if compare key change.key = .eq then change.after? else rows.get? key := by
  rw [applyTo]
  cases after : change.after? with
  | some record => exact rows.get?_insert change.key key record
  | none => exact rows.get?_erase change.key key

/-- A change that had something to change: a deletion found a record. -/
def Change.TakesEffect (change : Change) : Prop :=
  change.after? = none → change.before?.isSome

/-- What a put comes to: the record as stored, and the one change that the journal gains. -/
theorem Transaction.put_ok
    {transaction left : Transaction} {table after : Table} {record : Record}
    {given? : Option Value} {key : Value}
    (written : transaction.put table record given? = .ok (key, after, left)) :
    ∃ stored, table.resolve record given? = .ok (key, stored) ∧
      table.Changed (.put table.name key stored (table.get? key)) after ∧
        left = transaction.note (.put table.name key stored (table.get? key)) := by
  simp only [Transaction.put, Table.put, bind, Except.bind, pure, Except.pure] at written
  cases writable : transaction.checkWritable with
  | error error => simp [writable] at written
  | ok _ =>
      cases resolved : table.resolve record given? with
      | error error => simp [writable, resolved] at written
      | ok found =>
          rcases found with ⟨target, stored⟩
          simp only [writable, resolved, Except.ok.injEq, Prod.mk.injEq] at written
          rcases written with ⟨rfl, rfl, rfl⟩
          exact ⟨stored, rfl, ⟨rfl, rfl, rfl, rfl⟩, rfl⟩

/-- What a deletion comes to: a change where it found a record, and nothing where it found none. -/
theorem Transaction.delete_ok
    {transaction left : Transaction} {table after : Table} {key : Value} {deleted : Bool}
    (done : transaction.delete table key = .ok (deleted, after, left)) :
    (table.get? key = none ∧ deleted = false ∧ after = table ∧ left = transaction) ∨
      ∃ record, table.get? key = some record ∧ deleted = true ∧
        table.Changed (.delete table.name key record) after ∧
          left = transaction.note (.delete table.name key record) := by
  simp only [Transaction.delete, bind, Except.bind, pure, Except.pure] at done
  cases writable : transaction.checkWritable with
  | error error => simp [writable] at done
  | ok _ =>
      cases found : table.get? key with
      | none =>
          simp only [writable, found, Except.ok.injEq, Prod.mk.injEq] at done
          rcases done with ⟨rfl, rfl, rfl⟩
          exact Or.inl ⟨rfl, rfl, rfl, rfl⟩
      | some record =>
          simp only [writable, found, Except.ok.injEq, Prod.mk.injEq] at done
          rcases done with ⟨rfl, rfl, rfl⟩
          exact Or.inr ⟨record, rfl, rfl, ⟨rfl, found.symm, rfl, rfl⟩, rfl⟩

/-! ## Sequences of writes -/

/-- One workspace becomes another by changes, in this order, and by nothing else. -/
inductive Workspace.Writes : Workspace → List Change → Workspace → Prop where
  | none (space : Workspace) : Writes space [] space
  | more {first middle last : Workspace} {change : Change} {changes : List Change}
      (changed : first.table.Changed change middle.table)
      (noted : middle.transaction = first.transaction.note change)
      (rest : Writes middle changes last) :
      Writes first (change :: changes) last

namespace Workspace.Writes

variable {first last : Workspace} {changes : List Change}

/-- The journal afterwards is the journal before, followed by the changes. -/
theorem journal (writes : Writes first changes last) :
    last.transaction.journal = first.transaction.journal ++ changes := by
  induction writes with
  | none space => simp
  | more changed noted _ ih => simp [ih, noted, Transaction.note]

theorem names (writes : Writes first changes last) :
    ∀ change ∈ changes, change.table = first.table.name := by
  induction writes with
  | none space => simp
  | more changed _ _ ih =>
      intro change member
      rcases List.mem_cons.mp member with rfl | later
      · exact changed.name
      · rw [ih change later, Table.name, changed.schema]
        rfl

end Workspace.Writes

/-- The transaction of a workspace puts and deletes, and does nothing else. -/
inductive Workspace.Reaches : Workspace → Workspace → Prop where
  | refl (space : Workspace) : Reaches space space
  | put {space last : Workspace} {record : Record} {given? : Option Value} {key : Value}
      {table : Table} {transaction : Transaction}
      (written : space.transaction.put space.table record given? = .ok (key, table, transaction))
      (rest : Reaches ⟨table, transaction⟩ last) :
      Reaches space last
  | delete {space last : Workspace} {key : Value} {deleted : Bool}
      {table : Table} {transaction : Transaction}
      (done : space.transaction.delete space.table key = .ok (deleted, table, transaction))
      (rest : Reaches ⟨table, transaction⟩ last) :
      Reaches space last

namespace Workspace.Reaches

variable {first middle last : Workspace}

theorem trans (early : Reaches first middle) (late : Reaches middle last) :
    Reaches first last := by
  induction early with
  | refl space => exact late
  | put written _ ih => exact .put written (ih late)
  | delete done _ ih => exact .delete done (ih late)

/-- Puts and deletions are changes, every one of which takes effect. -/
theorem writes (reaches : Reaches first last) :
    ∃ changes, first.Writes changes last ∧ ∀ change ∈ changes, change.TakesEffect := by
  induction reaches with
  | refl space => exact ⟨[], .none space, by simp⟩
  | put written _ ih =>
      rcases ih with ⟨changes, later, effective⟩
      rcases Transaction.put_ok written with ⟨stored, _, changed, noted⟩
      refine ⟨_, .more changed noted later, ?_⟩
      rintro change (_ | ⟨_, member⟩)
      · exact fun missing => nomatch missing
      · exact effective change member
  | delete done _ ih =>
      rcases ih with ⟨changes, later, effective⟩
      rcases Transaction.delete_ok done with
        ⟨_, _, rfl, rfl⟩ | ⟨record, _, _, changed, noted⟩
      · exact ⟨changes, later, effective⟩
      · refine ⟨_, .more changed noted later, ?_⟩
        rintro change (_ | ⟨_, member⟩)
        · exact fun _ => rfl
        · exact effective change member

end Workspace.Reaches

/-! ## Work -/

namespace Work

variable {α β : Type}

/-- What work comes to in a workspace, and the workspace that it leaves. -/
def runOn (work : Work α) (space : Workspace) : Except Error α × Workspace :=
  work.run.run space

@[simp]
theorem runOn_pure (answer : α) (space : Workspace) :
    runOn (pure answer) space = (.ok answer, space) :=
  rfl

@[simp]
theorem runOn_workspace (space : Workspace) :
    runOn workspace space = (.ok space, space) :=
  rfl

@[simp]
theorem runOn_table (space : Workspace) :
    runOn table space = (.ok space.table, space) :=
  rfl

/-- Work goes on with the answer of the work before it, or ends with its failure. -/
theorem runOn_bind (work : Work α) (next : α → Work β) (space : Workspace) :
    runOn (work >>= next) space =
      match runOn work space with
      | (.ok answer, left) => runOn (next answer) left
      | (.error error, left) => (.error error, left) := by
  change (ExceptT.bindCont next (work.run.run space).1).run (work.run.run space).2 = _
  rw [runOn]
  cases outcome : work.run.run space with
  | mk answer left => cases answer <;> rfl

theorem runOn_bind_ok
    {work : Work α} {next : α → Work β} {space left : Workspace} {answer : α}
    (done : runOn work space = (.ok answer, left)) :
    runOn (work >>= next) space = runOn (next answer) left := by
  rw [runOn_bind, done]

theorem runOn_bind_error
    {work : Work α} {next : α → Work β} {space left : Workspace} {error : Error}
    (failed : runOn work space = (.error error, left)) :
    runOn (work >>= next) space = (.error error, left) := by
  rw [runOn_bind, failed]

theorem runOn_put (record : Record) (given? : Option Value) (space : Workspace) :
    runOn (put record given?) space =
      match space.transaction.put space.table record given? with
      | .error error => (.error error, space)
      | .ok (key, table, transaction) => (.ok key, ⟨table, transaction⟩) := by
  rw [put, runOn_bind_ok (runOn_workspace space)]
  cases space.transaction.put space.table record given? <;> rfl

theorem runOn_delete (key : Value) (space : Workspace) :
    runOn (delete key) space =
      match space.transaction.delete space.table key with
      | .error error => (.error error, space)
      | .ok (deleted, table, transaction) => (.ok deleted, ⟨table, transaction⟩) := by
  rw [delete, runOn_bind_ok (runOn_workspace space)]
  cases space.transaction.delete space.table key <;> rfl

/-- A put that is refused leaves the workspace as it was. -/
theorem runOn_put_refused
    {record : Record} {given? : Option Value} {space : Workspace} {error : Error}
    (refused : (runOn (put record given?) space).1 = .error error) :
    (runOn (put record given?) space).2 = space := by
  rw [runOn_put] at refused ⊢
  split at refused
  · rfl
  · contradiction

/-- A deletion that finds nothing leaves the workspace as it was, as one that is refused does. -/
theorem runOn_delete_vain
    {key : Value} {space : Workspace}
    (vain : (runOn (delete key) space).1 ≠ .ok true) :
    (runOn (delete key) space).2 = space := by
  rw [runOn_delete] at vain ⊢
  split at vain
  · rfl
  · next done =>
      rcases Transaction.delete_ok done with ⟨_, _, rfl, rfl⟩ | ⟨_, _, rfl, _⟩
      · rfl
      · exact absurd rfl vain

/-- Work that puts and deletes, and does nothing else to its workspace. -/
def Writing (work : Work α) : Prop :=
  ∀ space : Workspace, space.Reaches (runOn work space).2

namespace Writing

theorem of_unchanged {work : Work α} (unchanged : ∀ space, (runOn work space).2 = space) :
    Writing work := by
  intro space
  rw [unchanged space]
  exact .refl space

theorem bind
    {work : Work α} {next : α → Work β}
    (first : Writing work) (rest : ∀ answer, Writing (next answer)) :
    Writing (work >>= next) := by
  intro space
  have reached := first space
  rw [runOn_bind]
  cases outcome : runOn work space with
  | mk result left =>
      rw [outcome] at reached
      cases result with
      | error error => exact reached
      | ok answer => exact reached.trans (rest answer left)

theorem map {work : Work α} (writing : Writing work) (change : α → β) :
    Writing (do pure (change (← work))) :=
  writing.bind fun _ => of_unchanged fun _ => rfl

theorem put (record : Record) (given? : Option Value) : Writing (Work.put record given?) := by
  intro space
  rw [runOn_put]
  split
  · exact .refl space
  · next written => exact .put written (.refl _)

theorem delete (key : Value) : Writing (Work.delete key) := by
  intro space
  rw [runOn_delete]
  split
  · exact .refl space
  · next done => exact .delete done (.refl _)

theorem foldlM {step : β → α → Work β} (each : ∀ state item, Writing (step state item)) :
    ∀ (items : List α) (state : β), Writing (items.foldlM step state)
  | [], _ => of_unchanged fun _ => rfl
  | item :: rest, state => by
      rw [List.foldlM_cons]
      exact bind (each state item) fun after => foldlM each rest after

theorem putAll (records : List Record) : Writing (Work.putAll records) :=
  foldlM (fun _ record => put record none) records .null

theorem deleteAll (keys : List Value) : Writing (Work.deleteAll keys) :=
  foldlM (fun _ key => (delete key).map _) keys 0

end Writing

/-- Whether it succeeds or fails, all that the work does to its workspace is writing. -/
def Journaled (work : Work α) : Prop :=
  ∀ space : Workspace, ∃ changes, space.Writes changes (runOn work space).2

theorem Writing.journaled {work : Work α} (writing : Writing work) : Journaled work := by
  intro space
  rcases (writing space).writes with ⟨changes, writes, _⟩
  exact ⟨changes, writes⟩

theorem Journaled.putAll (records : List Record) : Journaled (Work.putAll records) :=
  (Writing.putAll records).journaled

end Work

/-! ## Deleting many keys -/

namespace Table

/-- The table without the rows under some keys. -/
def without (table : Table) (keys : List Value) : Table :=
  { table with rows := table.rows.filter fun stored _ => !keys.any stored.sameKey }

theorem without_nil (table : Table) : table.without [] = table := by
  simp [without, OrderedMap.filter]

theorem without_cons (table : Table) (key : Value) (keys : List Value) :
    table.without (key :: keys) = (table.erase key).without keys := by
  have turned (stored : Value) : (compare key stored != .eq) = !stored.sameKey key := by
    rw [Value.sameKey_comm]
    cases compared : compare key stored <;>
      simp [Value.sameKey, show key.order stored = _ from compared]
  simp only [without, erase, OrderedMap.erase, OrderedMap.filter, List.filter_filter, turned]
  simp [Bool.and_comm]

theorem get?_erase_of_apart
    (table : Table) {key sought : Value} (apart : key.sameKey sought = false) :
    (table.erase key).get? sought = table.get? sought := by
  have different : compare sought key ≠ .eq := by
    rw [Ne, ← Value.sameKey_iff, Value.sameKey_comm, apart]
    exact Bool.false_ne_true
  rw [get?, erase, OrderedMap.get?_erase, if_neg different, get?]

end Table

namespace Work

theorem runOn_delete_present
    {space : Workspace} {key : Value} {record : Record}
    (writable : space.transaction.mode = .readWrite)
    (present : space.table.get? key = some record) :
    runOn (delete key) space =
      (.ok true, ⟨space.table.erase key,
        space.transaction.note (.delete space.table.name key record)⟩) := by
  simp [runOn_delete, Transaction.delete, Transaction.checkWritable, writable, present, bind,
    Except.bind, Pure.pure, Except.pure]

/-- Keys that are there, no two of them one key, are all deleted and counted. -/
theorem runOn_deleteAll
    {keys : List Value} {space : Workspace}
    (writable : space.transaction.mode = .readWrite)
    (apart : keys.Pairwise fun first second => first.sameKey second = false)
    (present : ∀ key ∈ keys, (space.table.get? key).isSome) :
    ∃ left, runOn (deleteAll keys) space = (.ok keys.length, left) ∧
      left.table = space.table.without keys := by
  have onwards (count : Nat) :
      ∃ left, runOn (keys.foldlM (fun count key => do
          Pure.pure (if ← delete key then count + 1 else count)) count) space =
            (.ok (count + keys.length), left) ∧
        left.table = space.table.without keys := by
    induction keys generalizing space count with
    | nil => exact ⟨space, rfl, space.table.without_nil.symm⟩
    | cons key rest ih =>
        rcases Option.isSome_iff_exists.mp (present key List.mem_cons_self) with ⟨record, held⟩
        rcases List.pairwise_cons.mp apart with ⟨keyApart, restApart⟩
        let erased : Workspace := ⟨space.table.erase key,
          space.transaction.note (.delete space.table.name key record)⟩
        have restPresent : ∀ other ∈ rest, (erased.table.get? other).isSome := by
          intro other member
          rw [space.table.get?_erase_of_apart (keyApart other member)]
          exact present other (List.mem_cons_of_mem key member)
        have erasedWritable : erased.transaction.mode = .readWrite := writable
        rcases ih erasedWritable restApart restPresent (count + 1) with ⟨left, ran, kept⟩
        have first :
            runOn (do Pure.pure (if ← delete key then count + 1 else count)) space =
              (.ok (count + 1), erased) :=
          runOn_bind_ok (runOn_delete_present writable held)
        refine ⟨left, ?_, ?_⟩
        · rw [List.foldlM_cons, runOn_bind_ok first, ran, List.length_cons, Nat.add_assoc,
            Nat.add_comm 1]
        · rw [kept, Table.without_cons]
  simpa [deleteAll] using onwards 0

end Work

end LiveTable
