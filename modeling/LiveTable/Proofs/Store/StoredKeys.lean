import LiveTable.Proofs.Store.Transaction

/-!
# Stored keys after a rollback

A deletion finds its row by any key that compares equal to the stored one, and the journal
notes the key that was asked for.  So taking changes back leaves every row under the key
that the first deletion of it named, and under its own key if it was never deleted.

The main statement says this of a transaction whose work fails.  Rows come back to the
letter if every deletion names keys as they are stored.
-/

set_option autoImplicit false

namespace LiveTable

/-- Whether the change deletes what a table holds under a key. -/
def Change.deletes (change : Change) (name : String) (key : Value) : Bool :=
  change.table == name && change.after?.isNone && compare key change.key == .eq

namespace Journal

/-- The key of a table as the first deletion of it names it, or as it is if there is none. -/
def spelling (journal : Journal) (name : String) (key : Value) : Value :=
  ((journal.find? (·.deletes name key)).map Change.key).getD key

theorem spelling_cons (change : Change) (journal : Journal) (name : String) (key : Value) :
    spelling (change :: journal) name key =
      if change.deletes name key then change.key else spelling journal name key := by
  rw [spelling, List.find?_cons]
  cases change.deletes name key <;> rfl

/-- Whatever a deletion calls it, the key stays the key of its row. -/
theorem compare_spelling (journal : Journal) (name : String) (key : Value) :
    compare (spelling journal name key) key = .eq := by
  induction journal with
  | nil => exact Std.ReflOrd.compare_self
  | cons change rest ih =>
      rw [spelling_cons]
      split
      · next deletes =>
          simp only [Change.deletes, Bool.and_eq_true, beq_iff_eq] at deletes
          exact Std.OrientedCmp.eq_symm deletes.2
      · exact ih

/-- A change of another table does not tell how keys of this one are spelled. -/
theorem spelling_cons_other
    {change : Change} {name : String} (other : name ≠ change.table) (journal : Journal) :
    spelling (change :: journal) name = spelling journal name := by
  funext key
  rw [spelling_cons, if_neg]
  simp [Change.deletes, Ne.symm other]

/-- A put does not tell how keys are spelled. -/
theorem spelling_cons_put
    {change : Change} (put : change.after?.isSome) (journal : Journal) (name : String) :
    spelling (change :: journal) name = spelling journal name := by
  funext key
  rw [spelling_cons, if_neg]
  rcases Option.isSome_iff_exists.mp put with ⟨record, stored⟩
  simp [Change.deletes, stored]

theorem spelling_cons_deletion
    {change : Change} (deletion : change.after? = none) (journal : Journal) :
    spelling (change :: journal) change.table = fun key =>
      if compare key change.key = .eq then change.key else spelling journal change.table key := by
  funext key
  rw [spelling_cons]
  simp [Change.deletes, deletion]

/-- A key that every deletion names as it is keeps its spelling. -/
theorem spelling_of_named
    {journal : Journal} {name : String} {key : Value}
    (named : ∀ change ∈ journal, change.deletes name key = true → change.key = key) :
    spelling journal name key = key := by
  rw [spelling]
  cases found : journal.find? (·.deletes name key) with
  | none => rfl
  | some change =>
      have deletes : change.deletes name key = true := by
        have holds := List.find?_some found
        exact holds
      exact named change (List.mem_of_find?_eq_some found) deletes

end Journal

/-- The table with every key spelled anew: its rows are the rows of the other, under those keys. -/
structure Table.Respells (spell : Value → Value) (first second : Table) : Prop where
  schema : first.schema = second.schema
  rows : first.rows = second.rows.respell spell

/-- If the keys of a table are spelled as they are, nothing is different. -/
theorem Table.sameRows_of_respells
    {spell : Value → Value} {first? second? : Option Table}
    (respells : Option.Rel (Table.Respells spell) first? second?)
    (fixed : ∀ table, second? = some table → ∀ key ∈ table.rows.keys, spell key = key) :
    Option.Rel Table.SameRows first? second? := by
  cases respells with
  | none => exact .none
  | some respells =>
      exact .some ⟨respells.schema, respells.rows.trans (OrderedMap.respell_of_fixed (fixed _ rfl))⟩

/-- Taking a change back undoes it, and a deletion taken back spells its key. -/
theorem Table.Changed.respells_restore
    {table after undone : Table} {change : Change} {changes : Journal}
    (changed : table.Changed change after) (effective : change.TakesEffect)
    (ascending : table.rows.Ascending)
    (respells : undone.Respells (changes.spelling change.table) after) :
    (undone.restore change.key change.before?).Respells
      (Journal.spelling (change :: changes) change.table) table := by
  have same := changes.compare_spelling change.table
  have schema : (undone.restore change.key change.before?).schema = table.schema := by
    rw [Table.restore_schema, respells.schema, changed.schema]
  refine ⟨schema, ?_⟩
  cases stored : change.after? with
  | some record =>
      have rows : undone.rows =
          (table.rows.insert change.key record).respell (changes.spelling change.table) := by
        rw [respells.rows, changed.rows, Change.applyTo, stored]
      rw [Journal.spelling_cons_put (by simp [stored]), changed.held]
      cases held : table.get? change.key with
      | some former =>
          show undone.rows.insert change.key former = _
          have present : ((table.rows.insert change.key record).get? change.key).isSome := by
            simp
          rw [rows, OrderedMap.insert_respell same (ascending.insert _ _) present,
            ascending.insert_insert held]
      | none =>
          show undone.rows.erase change.key = _
          rw [rows, OrderedMap.erase_respell same, OrderedMap.erase_insert held]
  | none =>
      rcases Option.isSome_iff_exists.mp (effective stored) with ⟨former, before⟩
      have held : table.rows.get? change.key = some former := changed.held.symm.trans before
      have rows : undone.rows =
          (table.rows.erase change.key).respell (changes.spelling change.table) := by
        rw [respells.rows, changed.rows, Change.applyTo, stored]
      rw [Journal.spelling_cons_deletion stored, before]
      show undone.rows.insert change.key former = _
      rw [rows, ascending.insert_respell_erase same held]

/-- Taking changes back leaves every row under the key that the first deletion of it named. -/
theorem Tables.Writes.undo_respells
    {first last : Tables} {changes : Journal} (writes : first.Writes changes last)
    (wellFormed : first.WellFormed) (effective : ∀ change ∈ changes, change.TakesEffect)
    (name : String) :
    Option.Rel (Table.Respells (changes.spelling name))
      (OrderedMap.get? (changes.undo last) name) (first.get? name) := by
  induction writes with
  | none tables =>
      change Option.Rel _ (tables.get? name) (tables.get? name)
      cases tables.get? name with
      | none => exact .none
      | some table =>
          refine .some ⟨rfl, ?_⟩
          exact (OrderedMap.respell_of_fixed fun _ _ => rfl).symm
  | more held changed _ ih =>
      next tables last table after change changes rest =>
      have later := ih (wellFormed.changed held changed)
        fun other member => effective other (List.mem_cons_of_mem _ member)
      rw [Tables.get?_replace held] at later
      rw [Journal.undo_cons, Journal.undoChange, OrderedMap.get?_modify]
      by_cases here : name = change.table
      · subst here
        rw [if_pos rfl] at later
        rw [if_pos Std.ReflOrd.compare_self, held]
        cases undone : OrderedMap.get? (Journal.undo changes last) change.table with
        | none =>
            rw [undone] at later
            cases later
        | some found =>
            rw [undone] at later
            cases later with
            | some respells =>
                exact .some (changed.respells_restore (effective change List.mem_cons_self)
                  (wellFormed.rows held) respells)
      · rw [if_neg here] at later
        rw [if_neg (mt Std.compare_eq_iff_eq.mp here), Journal.spelling_cons_other here]
        exact later

/--
After a transaction whose work fails, every table has the rows that it had before, and a
row that the work deleted stands under the key by which it was first deleted.  If every
deletion of a stored key names the key as it is stored, then all rows are to the letter
what they were, keys included.  The work is any that puts and deletes and does nothing else
to its workspace.
-/
theorem rollback_respells_keys
    {Failure α : Type} (refuse : Error → Failure) {store : Store}
    (wellFormed : store.tables.WellFormed) (isOpen : store.isOpen) (mode : AccessMode)
    {name : String} {table : Table} (held : store.tables.get? name = some table)
    {work : Workspace → Except Failure α × Workspace}
    (writing : ∀ space : Workspace, space.Reaches (work space).2)
    {failure : Failure} (failed : (work ⟨table, .begin name mode⟩).1 = .error failure) :
    let journal := (work ⟨table, .begin name mode⟩).2.transaction.journal
    let ended := store.transaction refuse mode name work
    ended.1 = .error failure ∧
      (∀ sought, Option.Rel (Table.Respells (journal.spelling sought))
        (ended.2.tables.get? sought) (store.tables.get? sought)) ∧
      ((∀ change ∈ journal, ∀ key ∈ table.rows.keys,
          change.deletes name key = true → change.key = key) →
        ∀ sought, Option.Rel Table.SameRows
          (ended.2.tables.get? sought) (store.tables.get? sought)) := by
  intro journal ended
  rcases (writing ⟨table, .begin name mode⟩).writes with ⟨changes, writes, effective⟩
  have noted : journal = changes := writes.journal
  have made := writes.toTables wellFormed held
  have outcome :
      work ⟨table, .begin name mode⟩ =
        (.error failure, (work ⟨table, .begin name mode⟩).2) := by
    rw [← failed]
  have result : ended = _ := Store.transaction_error isOpen held outcome
  have respells (sought : String) :
      Option.Rel (Table.Respells (journal.spelling sought))
        (ended.2.tables.get? sought) (store.tables.get? sought) := by
    rw [result]
    show Option.Rel _ ((Journal.undo journal _).get? sought) _
    rw [noted]
    exact made.undo_respells wellFormed effective sought
  refine ⟨by rw [result], respells, ?_⟩
  intro named sought
  apply Table.sameRows_of_respells (respells sought)
  intro former before key member
  apply Journal.spelling_of_named
  intro change among deletes
  -- All changes are of the table that the transaction was begun on.
  have here : change.table = table.name := writes.names change (noted ▸ among)
  have there : change.table = sought := by
    simp only [Change.deletes, Bool.and_eq_true, beq_iff_eq] at deletes
    exact deletes.1.1
  have same : sought = name :=
    (there.symm.trans here).trans (wellFormed.named held)
  subst same
  rcases Option.some.inj (held.symm.trans before) with rfl
  exact named change among key member deletes

/--
A row that is deleted by its key and put again under an equal key of the other variant: the
put that fails afterwards takes all of it back, and the row stands under its own key.
-/
theorem rollback_keeps_replaced_key :
    let row : Value × Record := (.integer 1, .ofList [("id", .integer 1)])
    let table : Table := ⟨⟨"t", "id", false, []⟩, ⟨[row]⟩, 2⟩
    let store : Store := ⟨"s", ⟨1, [table.schema]⟩, ⟨[("t", table)]⟩, true, true, none, []⟩
    let work := Work.runOn do
      let _ ← Work.delete (.integer 1)
      Work.putAll [.ofList [("id", .float (.ofInt 1))], .empty]
    let ended := store.transaction id .readWrite "t" work
    ended.1 = .error (.missingKey "t") ∧
      ∀ sought, Option.Rel Table.SameRows
        (ended.2.tables.get? sought) (store.tables.get? sought) := by
  intro row table store work ended
  have wellFormed : store.tables.WellFormed :=
    Tables.empty_wellFormed.insert (show table.name = "t" from rfl)
      (List.pairwise_singleton _ _)
  have held : store.tables.get? "t" = some table :=
    OrderedMap.get?_insert_self .empty "t" table
  have writing : ∀ space : Workspace, space.Reaches (work space).2 :=
    (Work.Writing.delete _).bind fun _ => .putAll _
  have failed : (work ⟨table, .begin "t" .readWrite⟩).1 = .error (.missingKey "t") := by
    have verdict :
        (match (work ⟨table, .begin "t" .readWrite⟩).1 with
          | .error error => decide (error = .missingKey "t")
          | .ok _ => false) = true := by
      subst work table row
      decide +kernel
    split at verdict
    · next error outcome => rw [outcome, of_decide_eq_true verdict]
    · contradiction
  have named :
      ((work ⟨table, .begin "t" .readWrite⟩).2.transaction.journal.all fun change =>
        !change.deletes "t" (.integer 1) || change.key.asInteger? == some 1) = true := by
    subst work table row
    decide +kernel
  have rolledBack := rollback_respells_keys id wellFormed rfl .readWrite held writing failed
  refine ⟨rolledBack.1, rolledBack.2.2 ?_⟩
  intro change among key member deletes
  rcases List.mem_singleton.mp member with rfl
  have spelled := List.all_eq_true.mp named change among
  rw [deletes] at spelled
  cases key : change.key with
  | integer number =>
      have same : number = 1 := by simpa [key, Value.asInteger?] using spelled
      rw [same]
  | _ => simp [key, Value.asInteger?] at spelled

/--
A row under an integer is deleted by the equal floating point number, and comes back under
that one when the transaction fails.
-/
theorem rollback_respells_deleted_key :
    let row : Value × Record := (.integer 1, .ofList [("id", .integer 1)])
    let table : Table := ⟨⟨"t", "id", false, []⟩, ⟨[row]⟩, 2⟩
    let store : Store := ⟨"s", ⟨1, [table.schema]⟩, ⟨[("t", table)]⟩, true, true, none, []⟩
    let work := Work.runOn do
      let _ ← Work.delete (.float (.ofInt 1))
      (throw (.invalidOperation "no") : Work Unit)
    let ended := store.transaction id .readWrite "t" work
    (∀ space : Workspace, space.Reaches (work space).2) ∧
      ended.1 = .error (.invalidOperation "no") ∧
      (ended.2.tables.get? "t").map (·.rows.keys) ≠ some table.rows.keys := by
  intro row table store work ended
  have writing : ∀ space : Workspace, space.Reaches (work space).2 :=
    (Work.Writing.delete _).bind fun _ => .of_unchanged fun _ => rfl
  have verdict :
      (match ended.1 with
        | .error error => decide (error = .invalidOperation "no")
        | .ok _ => false) = true ∧
      ((ended.2.tables.get? "t").map (·.rows.keys)).all (·.all (·.asInteger?.isNone)) = true := by
    subst ended work store table row
    constructor <;> decide +kernel
  refine ⟨writing, ?_, ?_⟩
  · have failed := verdict.1
    split at failed
    · next error outcome => rw [outcome, of_decide_eq_true failed]
    · contradiction
  · intro same
    rw [same] at verdict
    exact Bool.noConfusion verdict.2

end LiveTable
