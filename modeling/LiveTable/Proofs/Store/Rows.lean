import LiveTable.Proofs.Store.Keyed
import LiveTable.Proofs.Store.Commits
import Mathlib.Algebra.Order.BigOperators.Group.List
import Mathlib.Algebra.Order.Ring.Nat

/-!
# How many rows a store has

A transaction that announces nothing leaves as many rows as there were.  A query can only
delete: every change in its journal is a row less, so if it announces anything there are
fewer rows than before.  Opening a store makes no rows.
-/

set_option autoImplicit false

namespace LiveTable

/-! ## Counting rows -/

namespace OrderedMap

variable {Key Content : Type} [Ord Key] [Std.TransOrd Key]

/-- Removing a key that is there takes one entry away. -/
theorem Ascending.size_erase {map : OrderedMap Key Content} (ascending : map.Ascending)
    {key : Key} {content : Content} (held : map.get? key = some content) :
    (map.erase key).size + 1 = map.size := by
  rcases map with ⟨entries⟩
  rw [get?, findEntry?, Option.map_eq_some_iff] at held
  rcases held with ⟨stored, found, _⟩
  have sorted : entries.Pairwise Before := ascending
  clear ascending
  show (entries.filter fun entry => compare key entry.1 != .eq).length + 1 = entries.length
  induction entries with
  | nil => contradiction
  | cons head rest ih =>
      rcases List.pairwise_cons.mp sorted with ⟨first, others⟩
      rw [findIn] at found
      by_cases here : compare key head.1 = .eq
      · -- The entries behind the one that is found have other keys.
        have kept : (rest.filter fun entry => compare key entry.1 != .eq) = rest := by
          apply List.filter_eq_self.mpr
          intro entry member
          have before : compare head.1 entry.1 = .lt := first entry member
          rw [← Std.TransCmp.congr_left here] at before
          simp [before]
        rw [List.filter_cons_of_neg (by simp [here]), kept, List.length_cons]
      · rw [if_neg here] at found
        rw [List.filter_cons_of_pos (by simpa using here), List.length_cons, List.length_cons,
          ih found others]

end OrderedMap

namespace Tables

/-- How many rows a table has; none if it is not there. -/
def rowsUnder (tables : Tables) (name : String) : Nat :=
  (tables.get? name).elim 0 fun table => table.rows.size

variable {first second tables : Tables} {name : String} {table after : Table}

theorem recordCount_eq (ascending : tables.Ascending) :
    tables.recordCount = (tables.keys.map tables.rowsUnder).sum := by
  have counted (counts : Nat) (listed : List (String × Table))
      (among : ∀ entry ∈ listed, entry ∈ tables.entries) :
      (listed.map Prod.snd).foldl (fun count table => count + table.rows.size) counts =
        counts + ((listed.map Prod.fst).map tables.rowsUnder).sum := by
    induction listed generalizing counts with
    | nil => rfl
    | cons head rest ih =>
        have here : tables.rowsUnder head.1 = head.2.rows.size := by
          rw [rowsUnder, ascending.get?_of_mem (among head List.mem_cons_self)]
          rfl
        simp only [List.map_cons, List.foldl_cons, List.sum_cons, here]
        rw [ih _ fun entry later => among entry (List.mem_cons_of_mem head later), Nat.add_assoc]
  have all := counted 0 tables.entries fun _ member => member
  rwa [Nat.zero_add] at all

/-- Tables of the same names, each with as many rows, have as many rows together. -/
theorem recordCount_congr (firstAscending : first.Ascending) (secondAscending : second.Ascending)
    (names : first.keys = second.keys) (same : ∀ name, first.rowsUnder name = second.rowsUnder name) :
    first.recordCount = second.recordCount := by
  rw [recordCount_eq firstAscending, recordCount_eq secondAscending, names]
  exact congrArg List.sum (List.map_congr_left fun name _ => same name)

theorem rowsUnder_replace (held : tables.get? name = some table) (sought : String) :
    rowsUnder (tables.modify name fun _ => after) sought =
      if sought = name then after.rows.size else tables.rowsUnder sought := by
  rw [rowsUnder, get?_replace held]
  split <;> rfl

/-- A table with fewer rows in the place of another makes it fewer rows together. -/
theorem recordCount_replace_lt (ascending : tables.Ascending)
    (held : tables.get? name = some table) (fewer : after.rows.size < table.rows.size) :
    recordCount (tables.modify name fun _ => after) < tables.recordCount := by
  have before : tables.rowsUnder name = table.rows.size := by rw [rowsUnder, held]; rfl
  rw [recordCount_eq ascending, recordCount_eq (ascending.modify name fun _ => after),
    OrderedMap.keys_modify]
  apply List.sum_lt_sum
  · intro other _
    rw [rowsUnder_replace held]
    split
    · next same => rw [same, before]; exact fewer.le
    · exact le_rfl
  · refine ⟨name, (OrderedMap.mem_keys_iff tables name).mpr (by rw [held]; rfl), ?_⟩
    rwa [rowsUnder_replace held, if_pos rfl, before]

theorem keys_undo (changes : List Change) (tables : Tables) :
    (Journal.undo changes tables).keys = tables.keys := by
  induction changes with
  | nil => rfl
  | cons change rest ih => rw [Journal.undo_cons, Journal.undoChange, OrderedMap.keys_modify, ih]

theorem Writes.keys {changes : List Change} (writes : first.Writes changes second) :
    second.keys = first.keys := by
  induction writes with
  | none tables => rfl
  | more _ _ _ ih => rw [ih, OrderedMap.keys_modify]

/-- Taking back all changes restores the number of rows. -/
theorem Writes.recordCount_undo {changes : List Change} (writes : first.Writes changes second)
    (wellFormed : first.WellFormed) :
    recordCount (Journal.undo changes second) = first.recordCount := by
  apply recordCount_congr ((wellFormed.writes writes).undo changes).ascending wellFormed.ascending
  · rw [keys_undo, writes.keys]
  · intro name
    have same := writes.undo_sameContents wellFormed name
    rw [rowsUnder, rowsUnder]
    generalize OrderedMap.get? (Journal.undo changes second) name = undone? at same ⊢
    generalize first.get? name = table? at same ⊢
    cases same with
    | some alike => exact alike.size
    | none => rfl

end Tables

/-! ## Deleting -/

/-- One workspace becomes another by deletions, each of which is in its journal. -/
structure Workspace.Erases (first last : Workspace) : Prop where
  ascending : first.table.rows.Ascending → last.table.rows.Ascending
  fewer : first.table.rows.Ascending →
    last.table.rows.size + last.transaction.journal.length =
      first.table.rows.size + first.transaction.journal.length

theorem Workspace.Erases.trans {first middle last : Workspace} (early : first.Erases middle)
    (late : middle.Erases last) : first.Erases last where
  ascending sorted := late.ascending (early.ascending sorted)
  fewer sorted := (late.fewer (early.ascending sorted)).trans (early.fewer sorted)

/-- Work that deletes rows, and does nothing else to its workspace. -/
def Work.Erasing {α : Type} (work : Work α) : Prop :=
  ∀ space : Workspace, space.Erases (runOn work space).2

namespace Work.Erasing

variable {α β : Type}

theorem of_unchanged {work : Work α} (unchanged : ∀ space, (runOn work space).2 = space) :
    Erasing work := by
  intro space
  rw [unchanged space]
  exact ⟨id, fun _ => rfl⟩

theorem bind {work : Work α} {next : α → Work β} (first : Erasing work)
    (rest : ∀ answer, Erasing (next answer)) : Erasing (work >>= next) := by
  intro space
  have erased := first space
  rw [runOn_bind]
  cases outcome : runOn work space with
  | mk result left =>
      rw [outcome] at erased
      cases result with
      | error error => exact erased
      | ok answer => exact erased.trans (rest answer left)

theorem map {work : Work α} (erasing : Erasing work) (change : α → β) :
    Erasing (do pure (change (← work))) :=
  erasing.bind fun _ => of_unchanged fun _ => rfl

theorem reading {next : Table → Work β} (rest : ∀ table, Erasing (next table)) :
    Erasing (Work.table >>= next) :=
  bind (of_unchanged fun _ => rfl) rest

theorem delete (key : Value) : Erasing (Work.delete key) := by
  intro space
  rw [runOn_delete]
  split
  · exact ⟨id, fun _ => rfl⟩
  · next done =>
      rcases Transaction.delete_ok done with ⟨_, _, rfl, rfl⟩ | ⟨record, held, _, changed, rfl⟩
      · exact ⟨id, fun _ => rfl⟩
      · refine ⟨fun sorted => ?_, fun sorted => ?_⟩
        · rw [changed.rows]
          exact Change.applyTo_ascending _ sorted
        · have less := sorted.size_erase held
          rw [changed.rows, Transaction.note, List.length_append]
          show (space.table.rows.erase key).size + (_ + 1) = _
          rw [← Nat.add_assoc, Nat.add_right_comm, less]

theorem deleteAll (keys : List Value) : Erasing (Work.deleteAll keys) := by
  rw [Work.deleteAll]
  generalize 0 = count
  induction keys generalizing count with
  | nil => exact of_unchanged fun _ => rfl
  | cons key rest ih =>
      rw [List.foldlM_cons]
      exact bind ((delete key).map _) ih

end Work.Erasing

open Work (Erasing)

namespace Descriptor

theorem project_erasing (projection : Projection) (collection : Collection) :
    Erasing (project projection collection) := by
  apply Erasing.reading
  intro table
  cases projection with
  | erase =>
      have deletes : Erasing collection.delete :=
        .reading fun found => .deleteAll (collection.keys found)
      exact deletes.map QueryResult.deleted
  | _ => exact .of_unchanged fun _ => rfl

theorem run_erasing (descriptor : Descriptor) : Erasing descriptor.run := by
  apply Erasing.reading
  intro table
  cases descriptor.plan table.schema with
  | error error => exact .of_unchanged fun _ => rfl
  | ok collection => exact project_erasing descriptor.projection collection

end Descriptor

/-- Whatever a query asks for, it does nothing to its workspace but delete. -/
theorem Request.perform_query_erases (descriptor : Descriptor) (space : Workspace) :
    space.Erases ((Request.query descriptor).perform space).2 :=
  descriptor.run_erasing.map Outcome.result space

/-! ## Transactions -/

namespace Store

variable {store ready : Store}

/-- A store that is opened has the rows that it had, or new tables without rows. -/
theorem open?_recordCount (sound : store.Sound) (opening : store.open? = .ok ready) :
    ready.tables.recordCount = store.tables.recordCount := by
  rw [open?] at opening
  split at opening
  · rw [Except.ok.inj opening]
  · split at opening
    · contradiction
    · split at opening
      · rw [← Except.ok.inj opening]
      · next uncreated =>
          split at opening
          · contradiction
          · next tables declared =>
              rw [← Except.ok.inj opening, sound.created (by simpa using uncreated)]
              simp only [declaredTables, bind, Except.bind] at declared
              split at declared
              · contradiction
              · have bare : ∀ name ∈ tables.keys, tables.rowsUnder name = 0 := by
                  intro name _
                  rw [Tables.rowsUnder]
                  cases held : tables.get? name with
                  | none => rfl
                  | some table =>
                      rw [Desk.declared_fresh declared held]
                      rfl
                show tables.recordCount = 0
                rw [Tables.recordCount_eq (createTables_wellFormed declared).ascending]
                exact List.sum_eq_zero (List.forall_mem_map.mpr bare)

/-- A transaction announces nothing and keeps the number of rows, or commits a batch. -/
theorem transaction_rows {Failure α : Type} (sound : store.Sound) (refuse : Error → Failure)
    (mode : AccessMode) (name : String) {work : Workspace → Except Failure α × Workspace}
    (reaches : ∀ space : Workspace, space.Reaches (work space).2) :
    ((store.transaction refuse mode name work).2.outbox = store.outbox ∧
        (store.transaction refuse mode name work).2.tables.recordCount =
          store.tables.recordCount) ∨
      ∃ table space, store.tables.get? name = some table ∧
        (work ⟨table, .begin name mode⟩).2 = space ∧ space.transaction.journal ≠ [] ∧
          (store.transaction refuse mode name work).2.outbox =
            store.outbox ++ [space.transaction.journal] ∧
          (store.transaction refuse mode name work).2.tables =
            store.tables.modify name fun _ => space.table := by
  cases isOpen : store.isOpen with
  | false =>
      rw [transaction_closed isOpen]
      exact Or.inl ⟨rfl, rfl⟩
  | true =>
      cases held : store.tables.get? name with
      | none =>
          rw [transaction_missing isOpen held]
          exact Or.inl ⟨rfl, rfl⟩
      | some table =>
          rcases (reaches ⟨table, .begin name mode⟩).writes with ⟨changes, writes, _⟩
          cases performed : work ⟨table, .begin name mode⟩ with
          | mk outcome space =>
              rw [performed] at writes
              have journal : space.transaction.journal = changes := writes.journal
              cases outcome with
              | error failure =>
                  rw [transaction_error isOpen held performed, journal]
                  exact Or.inl ⟨rfl, (writes.toTables sound.wellFormed held).recordCount_undo
                    sound.wellFormed⟩
              | ok answer =>
                  rw [transaction_ok isOpen held performed, publish, enqueue]
                  by_cases quiet : changes = []
                  · rw [if_pos (by rw [journal, quiet]; rfl)]
                    exact Or.inl ⟨rfl, congrArg _ (modify_of_quiet sound held writes quiet)⟩
                  · rw [if_neg (by simpa [journal] using quiet)]
                    exact Or.inr ⟨table, space, rfl, congrArg Prod.snd performed, by rwa [journal],
                      rfl, rfl⟩

/-- A query leaves as many rows as there were, or there are fewer and it has committed a batch. -/
theorem attempt_query_rows (sound : store.Sound) (table : String) (mode : AccessMode)
    (descriptor : Descriptor) :
    let after := (store.attempt ⟨table, mode, .query descriptor⟩).2
    (after.outbox = store.outbox ∧ after.tables.recordCount = store.tables.recordCount) ∨
      ∃ batch, after.outbox = store.outbox ++ [batch] ∧
        after.tables.recordCount < store.tables.recordCount := by
  intro after
  cases opening : store.open? with
  | error error =>
      have same : after = store := congrArg Prod.snd (attempt_of_error opening)
      rw [same]
      exact Or.inl ⟨rfl, rfl⟩
  | ok ready =>
      have ran : after = (ready.run ⟨table, mode, .query descriptor⟩).2 :=
        congrArg Prod.snd (attempt_of_ok opening)
      have soundReady := (open?_keeps sound opening).1
      have outbox : ready.outbox = store.outbox := by
        rcases of_open? opening with ⟨rfl, _⟩ | ⟨tables, rfl⟩ <;> rfl
      rw [ran, ← outbox, ← open?_recordCount sound opening]
      rcases transaction_rows soundReady _ mode table (Request.perform_reaches _) with
        quiet | ⟨found, space, held, performed, some, outbox, tables⟩
      · exact Or.inl quiet
      · refine Or.inr ⟨space.transaction.journal, outbox, ?_⟩
        have erased := Request.perform_query_erases descriptor ⟨found, .begin table mode⟩
        rw [performed] at erased
        have counted := erased.fewer (soundReady.wellFormed.rows held)
        have fewer : space.table.rows.size < found.rows.size := by
          have added := List.length_pos_iff.mpr some
          dsimp only [Transaction.begin, List.length_nil] at counted
          omega
        have less := Tables.recordCount_replace_lt soundReady.wellFormed.ascending held fewer
        rwa [run, tables]

end Store

end LiveTable
