import LiveTable.Proofs.Table.Rollback

/-!
# Histories of tables

A history is a list of events on a desk: tables that are written directly, and in any
number of transactions that are open on them at the same time and that are committed
or rolled back in any order.

A history is told by the keys that its puts into a table came to, in their order.

What every put, deletion, clearing and restoring of a table keeps, all histories keep, as
long as their puts come to keys that are allowed.  `Table.Law` says what has to be shown for
that: beside the tables it has to speak of what the journals of open transactions may put
back one day.
-/

set_option autoImplicit false

namespace LiveTable

/-! ## One write -/

namespace Table

variable {table after : Table}

/-- What a put comes to: a resolved key, the record as stored, and the counter behind it. -/
theorem put_ok
    {record : Record} {given? : Option Value} {written : Written}
    (done : table.put record given? = .ok (written, after)) :
    table.resolve record given? = .ok (written.key, written.record) ∧
      written.replaced? = table.get? written.key ∧
      after = { table with
        rows := table.rows.insert written.key written.record
        nextKey := nextAfter table.nextKey written.key } := by
  simp only [put, bind, Except.bind, pure, Except.pure] at done
  cases resolved : table.resolve record given? with
  | error error => simp [resolved] at done
  | ok found =>
      rcases found with ⟨key, stored⟩
      simp only [resolved, Except.ok.injEq, Prod.mk.injEq] at done
      rcases done with ⟨rfl, rfl⟩
      exact ⟨rfl, rfl, rfl⟩

theorem toInt_successor {n : Int64} (notLast : n ≠ Int64.maxValue) :
    (successor n).toInt = n.toInt + 1 := by
  have below : n.toInt < 2 ^ 63 - 1 := by
    have bound := n.toInt_lt
    have different : n.toInt ≠ 2 ^ 63 - 1 := fun same => notLast (Int64.toInt_inj.mp same)
    omega
  have above := n.le_toInt
  rw [successor, if_neg notLast, Int64.toInt_add]
  have one : (1 : Int64).toInt = 1 := rfl
  rw [one]
  apply Int.bmod_eq_of_le <;> omega

/-- The next key never goes back. -/
theorem le_nextAfter (nextKey : Int64) (key : Value) :
    nextKey.toInt ≤ (nextAfter nextKey key).toInt := by
  cases key with
  | integer n =>
      rw [nextAfter]
      split
      · next reached =>
          by_cases last : n = Int64.maxValue
          · rwa [successor, if_pos last]
          · rw [toInt_successor last]
            omega
      · exact Int.le_refl _
  | _ => exact Int.le_refl _

/-- An integer key that was written lies below the next key, unless it is the greatest. -/
theorem lt_nextAfter (nextKey : Int64) {n : Int64} (notLast : n ≠ Int64.maxValue) :
    n.toInt < (nextAfter nextKey (.integer n)).toInt := by
  rw [nextAfter]
  split
  · rw [toInt_successor notLast]
    omega
  · next below => omega

/-- A later state of a table: of the same schema, with the next key no lower. -/
structure Later (before after : Table) : Prop where
  schema : after.schema = before.schema
  nextKey : before.nextKey.toInt ≤ after.nextKey.toInt

theorem Later.refl (table : Table) : table.Later table :=
  ⟨rfl, Int.le_refl _⟩

theorem later_put
    {record : Record} {given? : Option Value} {written : Written}
    (done : table.put record given? = .ok (written, after)) :
    table.Later after := by
  rcases put_ok done with ⟨_, _, rfl⟩
  exact ⟨rfl, le_nextAfter _ _⟩

theorem later_restore (table : Table) (key : Value) (before? : Option Record) :
    table.Later (table.restore key before?) := by
  cases before? <;> exact ⟨rfl, Int.le_refl _⟩

/-- Whether a record comes with a key, given beside it or in its primary key field. -/
def bringsKey (table : Table) (record : Record) (given? : Option Value) : Bool :=
  (usable? given?).isSome || (usable? (record.getPath? table.schema.primaryKey)).isSome

end Table

/-- The key that a put came to, and whether the table allocated it. -/
structure ResolvedKey where
  key : Value
  allocated : Bool

namespace Table

/-- The key that a put comes to, unless it is refused. -/
def resolvedKey? (table : Table) (record : Record) (given? : Option Value) :
    Option ResolvedKey :=
  match table.put record given? with
  | .ok (written, _) => some ⟨written.key, !table.bringsKey record given?⟩
  | .error _ => none

/-! ## Laws -/

/--
What makes `Good` last on tables, given that a put is only looked at where the key that it
comes to is `Allowed`.  `Fits` says which record may be put back under which key.
-/
structure Law (Allowed : Value → Prop) (Good : Table → Prop)
    (Fits : Table → Value → Record → Prop) : Prop where
  put {table after : Table} {record : Record} {given? : Option Value} {written : Written}
    (good : Good table) (done : table.put record given? = .ok (written, after))
    (allowed : Allowed written.key) : Good after
  erase {table : Table} (key : Value) (good : Good table) : Good (table.erase key)
  clear {table : Table} (good : Good table) : Good table.clear
  restore {table : Table} {key : Value} {record : Record} (good : Good table)
    (fits : Fits table key record) : Good (table.restore key (some record))
  found {table : Table} {key : Value} {record : Record} (good : Good table)
    (stored : table.get? key = some record) : Fits table key record
  lasting {table after : Table} {key : Value} {record : Record} (later : table.Later after)
    (fits : Fits table key record) : Fits after key record

end Table

/-! ## Desks -/

/-- One thing done to tables, directly or in the open transaction of a position. -/
inductive TableEvent where
  | put (table : String) (record : Record) (given? : Option Value)
  | delete (table : String) (key : Value)
  | clear (table : String)
  | begin (table : String) (mode : AccessMode)
  | write (position : Nat) (write : TableWrite)
  | commit (position : Nat)
  | rollback (position : Nat)

/-- Tables, and the transactions that are open on them. -/
structure Desk where
  tables : Tables
  transactions : List Transaction

namespace Desk

/-- Tables on which no transaction is open. -/
def ofTables (tables : Tables) : Desk :=
  ⟨tables, []⟩

/-- What an event makes of a desk; a write that is refused changes nothing. -/
def perform (desk : Desk) : TableEvent → Desk
  | .put name record given? =>
    match desk.tables.get? name with
    | none => desk
    | some table =>
      match table.put record given? with
      | .error _ => desk
      | .ok (_, after) => { desk with tables := desk.tables.modify name fun _ => after }
  | .delete name key => { desk with tables := desk.tables.modify name (·.erase key) }
  | .clear name => { desk with tables := desk.tables.modify name Table.clear }
  | .begin name mode => { desk with transactions := desk.transactions ++ [.begin name mode] }
  | .write position write =>
    match desk.transactions[position]? with
    | none => desk
    | some transaction =>
      let pool := write.perform (desk.tables, transaction)
      ⟨pool.1, desk.transactions.set position pool.2⟩
  | .commit position => { desk with transactions := desk.transactions.eraseIdx position }
  | .rollback position =>
    match desk.transactions[position]? with
    | none => desk
    | some transaction =>
      ⟨transaction.journal.undo desk.tables, desk.transactions.eraseIdx position⟩

/-- The desk after a history. -/
def run (desk : Desk) (events : List TableEvent) : Desk :=
  events.foldl perform desk

/--
The record, and the key given beside it, of which an event makes a put into the table of a
name.  A transaction that only reads refuses every put before it looks for a key.
-/
def putInto? (desk : Desk) (name : String) : TableEvent → Option (Record × Option Value)
  | .put target record given? => if target = name then some (record, given?) else none
  | .write position (.put target record given?) =>
    if target = name ∧ (desk.transactions[position]?).any (·.mode = .readWrite) then
      some (record, given?)
    else none
  | _ => none

/-- The key that an event comes to where it puts a record into the table of a name. -/
def resolvedKey? (desk : Desk) (name : String) (event : TableEvent) : Option ResolvedKey :=
  match desk.putInto? name event, desk.tables.get? name with
  | some (record, given?), some table => table.resolvedKey? record given?
  | _, _ => none

/-- The keys that the puts of a history into the table of a name came to, the first one first. -/
def resolvedKeys (desk : Desk) (name : String) : List TableEvent → List ResolvedKey
  | [] => []
  | event :: rest =>
    (desk.resolvedKey? name event).toList ++ (desk.perform event).resolvedKeys name rest

/-- Whatever table stands under a name satisfies a condition. -/
def Has (desk : Desk) (name : String) (Condition : Table → Prop) : Prop :=
  ∀ table, desk.tables.get? name = some table → Condition table

/-- The table of a name is good, and what is noted of it fits. -/
structure Kept (Good : Table → Prop) (Fits : Table → Value → Record → Prop) (name : String)
    (desk : Desk) : Prop where
  wellFormed : desk.tables.WellFormed
  good : desk.Has name Good
  noted {table : Table} {transaction : Transaction} {change : Change} {record : Record}
    (held : desk.tables.get? name = some table) (among : transaction ∈ desk.transactions)
    (member : change ∈ transaction.journal) (here : change.table = name)
    (before : change.before? = some record) : Fits table change.key record

variable {Allowed : Value → Prop} {Good : Table → Prop} {Fits : Table → Value → Record → Prop}
variable {name : String} {desk : Desk}

/-! ## One event -/

/-- Tables may change if the one of the name stays good and becomes a later one. -/
theorem Kept.withTables
    (law : Table.Law Allowed Good Fits) (kept : desk.Kept Good Fits name)
    {tables : Tables} (wellFormed : tables.WellFormed)
    (changed : ∀ table, tables.get? name = some table →
      ∃ former, desk.tables.get? name = some former ∧ former.Later table ∧ Good table) :
    Kept Good Fits name { desk with tables := tables } where
  wellFormed := wellFormed
  good table held := (changed table held).elim fun _ found => found.2.2
  noted held among member here before := by
    rcases changed _ held with ⟨former, heldFormer, later, _⟩
    exact law.lasting later (kept.noted heldFormer among member here before)

/-- One table may be changed if it stays good and becomes a later one. -/
theorem Kept.modify
    (law : Table.Law Allowed Good Fits) (kept : desk.Kept Good Fits name)
    (changed : String) {change : Table → Table}
    (later : ∀ table, desk.tables.get? changed = some table → table.Later (change table))
    (ascending : ∀ table : Table, desk.tables.get? changed = some table →
      table.rows.Ascending → (change table).rows.Ascending)
    (good : ∀ table, desk.tables.get? changed = some table → changed = name → Good table →
      Good (change table)) :
    Kept Good Fits name { desk with tables := desk.tables.modify changed change } := by
  apply kept.withTables law
  · apply kept.wellFormed.modify
    intro table held
    exact ⟨(later table held).schema, ascending table held (kept.wellFormed.rows held)⟩
  · intro table held
    rw [OrderedMap.get?_modify] at held
    by_cases same : name = changed
    · subst same
      rw [if_pos Std.ReflCmp.compare_self] at held
      rcases Option.map_eq_some_iff.mp held with ⟨former, heldFormer, rfl⟩
      exact ⟨former, heldFormer, later former heldFormer,
        good former heldFormer rfl (kept.good former heldFormer)⟩
    · rw [if_neg (mt Std.compare_eq_iff_eq.mp same)] at held
      exact ⟨table, held, .refl table, kept.good table held⟩

/-- The open transactions may be others if what they have noted was noted before or fits. -/
theorem Kept.withTransactions
    (kept : desk.Kept Good Fits name) {transactions : List Transaction}
    (noted : ∀ table, desk.tables.get? name = some table →
      ∀ transaction ∈ transactions, ∀ change ∈ transaction.journal,
        (∃ former ∈ desk.transactions, change ∈ former.journal) ∨
          (change.table = name → ∀ record, change.before? = some record →
            Fits table change.key record)) :
    Kept Good Fits name { desk with transactions := transactions } where
  wellFormed := kept.wellFormed
  good := kept.good
  noted held among member here before := by
    rcases noted _ held _ among _ member with ⟨former, open_, listed⟩ | fits
    · exact kept.noted held open_ listed here before
    · exact fits here _ before

theorem Kept.withoutTransaction (kept : desk.Kept Good Fits name) (position : Nat) :
    Kept Good Fits name { desk with transactions := desk.transactions.eraseIdx position } := by
  apply kept.withTransactions
  intro table held transaction among change member
  exact Or.inl ⟨transaction, List.mem_of_mem_eraseIdx among, member⟩

/-- Taking back what an open transaction has noted keeps a table good. -/
theorem Kept.undo
    (law : Table.Law Allowed Good Fits) (kept : desk.Kept Good Fits name)
    {transaction : Transaction} (among : transaction ∈ desk.transactions) {journal : Journal}
    (part : ∀ change ∈ journal, change ∈ transaction.journal) :
    Kept Good Fits name { desk with tables := journal.undo desk.tables } := by
  -- Later changes are taken back first, and what an earlier one noted still fits after that.
  induction journal with
  | nil => exact kept
  | cons change rest ih =>
      have keptRest := ih fun other member => part other (List.mem_cons_of_mem _ member)
      have listed := part change List.mem_cons_self
      rw [Journal.undo_cons]
      apply keptRest.modify law change.table
      · exact fun table _ => table.later_restore _ _
      · exact fun table _ ascending => Table.restore_ascending ascending _ _
      · intro table held here good
        cases before : change.before? with
        | none => exact law.erase change.key good
        | some record =>
            rw [here] at held
            exact law.restore good (keptRest.noted held among listed here before)

/-- A put keeps a table good where the key that it comes to is allowed. -/
theorem Kept.put
    (law : Table.Law Allowed Good Fits) (kept : desk.Kept Good Fits name)
    {target : String} {table after : Table} {record : Record} {given? : Option Value}
    {written : Written} (held : desk.tables.get? target = some table)
    (done : table.put record given? = .ok (written, after))
    (allowed : target = name → Allowed written.key) :
    Kept Good Fits name { desk with tables := desk.tables.modify target fun _ => after } := by
  apply kept.modify law target
  · intro found heldFound
    rcases Option.some.inj (held.symm.trans heldFound) with rfl
    exact Table.later_put done
  · intro _ _ _
    rcases Table.put_ok done with ⟨_, _, rfl⟩
    exact (kept.wellFormed.rows held).insert _ _
  · intro found heldFound here good
    rcases Option.some.inj (held.symm.trans heldFound) with rfl
    exact law.put good done (allowed here)

/-! ## Writes in a transaction -/

theorem mem_journal_set
    {transactions : List Transaction} {position : Nat} {former left : Transaction}
    (found : transactions[position]? = some former) {changes : List Change}
    (noted : left.journal = former.journal ++ changes) {transaction : Transaction}
    (among : transaction ∈ transactions.set position left) {change : Change}
    (member : change ∈ transaction.journal) :
    (∃ earlier ∈ transactions, change ∈ earlier.journal) ∨ change ∈ changes := by
  rcases List.mem_or_eq_of_mem_set among with before | rfl
  · exact Or.inl ⟨transaction, before, member⟩
  · rw [noted] at member
    rcases List.mem_append.mp member with early | late
    · exact Or.inl ⟨former, List.mem_of_getElem? found, early⟩
    · exact Or.inr late

end Desk

/-- A put of a transaction is a put of the table, which the journal notes. -/
theorem Transaction.put_table
    {transaction left : Transaction} {table after : Table} {record : Record}
    {given? : Option Value} {key : Value}
    (done : transaction.put table record given? = .ok (key, after, left)) :
    ∃ written, table.put record given? = .ok (written, after) ∧ written.key = key ∧
      left = transaction.note
        (.put table.name written.key written.record written.replaced?) := by
  simp only [Transaction.put, bind, Except.bind, pure, Except.pure] at done
  cases writable : transaction.checkWritable with
  | error error => simp [writable] at done
  | ok permitted =>
      cases put : table.put record given? with
      | error error => simp [writable, put] at done
      | ok found =>
          rcases found with ⟨written, later⟩
          simp only [writable, put, Except.ok.injEq, Prod.mk.injEq] at done
          rcases done with ⟨rfl, rfl, rfl⟩
          have sameName : later.name = table.name := by
            rcases Table.put_ok put with ⟨_, _, rfl⟩
            rfl
          rw [sameName]
          exact ⟨written, rfl, rfl, rfl⟩

/-- A put that is not refused is one of a transaction that may write. -/
theorem Transaction.mode_of_put
    {transaction : Transaction} {table : Table} {record : Record} {given? : Option Value}
    {outcome : Value × Table × Transaction}
    (done : transaction.put table record given? = .ok outcome) : transaction.mode = .readWrite := by
  cases mode : transaction.mode with
  | readWrite => rfl
  | readOnly => simp [Transaction.put, checkWritable, mode, bind, Except.bind] at done

/-- A deletion of a transaction finds nothing, or erases what the journal notes. -/
theorem Transaction.delete_table
    {transaction left : Transaction} {table after : Table} {key : Value} {deleted : Bool}
    (done : transaction.delete table key = .ok (deleted, after, left)) :
    (after = table ∧ left = transaction) ∨
      ∃ record, table.get? key = some record ∧ after = table.erase key ∧
        left = transaction.note (.delete table.name key record) := by
  simp only [Transaction.delete, bind, Except.bind] at done
  cases writable : transaction.checkWritable with
  | error error => simp [writable] at done
  | ok permitted =>
      cases stored : table.get? key with
      | none =>
          simp only [writable, stored, pure, Except.pure, Except.ok.injEq, Prod.mk.injEq] at done
          exact Or.inl ⟨done.2.1.symm, done.2.2.symm⟩
      | some record =>
          simp only [writable, stored, pure, Except.pure, Except.ok.injEq, Prod.mk.injEq] at done
          exact Or.inr ⟨record, rfl, done.2.1.symm, done.2.2.symm⟩

namespace Desk

variable {Allowed : Value → Prop} {Good : Table → Prop} {Fits : Table → Value → Record → Prop}
variable {name : String} {desk : Desk}

/-- A put in a transaction keeps a table good, and notes what fits. -/
theorem Kept.transact_put
    (law : Table.Law Allowed Good Fits) (kept : desk.Kept Good Fits name)
    {target : String} {position : Nat} {table after : Table} {transaction left : Transaction}
    {record : Record} {given? : Option Value} {key : Value}
    (found : desk.transactions[position]? = some transaction)
    (held : desk.tables.get? target = some table)
    (done : transaction.put table record given? = .ok (key, after, left))
    (allowed : target = name → Allowed key) :
    Kept Good Fits name
      ⟨desk.tables.modify target fun _ => after, desk.transactions.set position left⟩ := by
  rcases Transaction.put_table done with ⟨written, put, rfl, rfl⟩
  have keptTables := kept.put law held put allowed
  apply keptTables.withTransactions
  intro current heldCurrent other among change member
  rcases mem_journal_set found rfl among member with before | new
  · exact Or.inl before
  · refine Or.inr ?_
    rw [List.mem_singleton.mp new]
    intro here replaced before
    -- What was replaced was there before, and fits the table as it has become.
    have same : target = name := (kept.wellFormed.named held).symm.trans here
    subst same
    rw [Tables.get?_replace held, if_pos rfl] at heldCurrent
    rcases Option.some.inj heldCurrent with rfl
    rcases Table.put_ok put with ⟨_, replacedThen, _⟩
    have stored : table.get? written.key = some replaced := replacedThen.symm.trans before
    exact law.lasting (Table.later_put put) (law.found (kept.good table held) stored)

/-- A deletion in a transaction keeps a table good, and notes what fits. -/
theorem Kept.transact_delete
    (law : Table.Law Allowed Good Fits) (kept : desk.Kept Good Fits name)
    {target : String} {position : Nat} {table after : Table} {transaction left : Transaction}
    {key : Value} {deleted : Bool}
    (found : desk.transactions[position]? = some transaction)
    (held : desk.tables.get? target = some table)
    (done : transaction.delete table key = .ok (deleted, after, left)) :
    Kept Good Fits name
      ⟨desk.tables.modify target fun _ => after, desk.transactions.set position left⟩ := by
  rcases Transaction.delete_table done with ⟨rfl, rfl⟩ | ⟨record, stored, rfl, rfl⟩
  · rw [kept.wellFormed.ascending.modify_self held]
    apply kept.withTransactions
    intro _ _ other among change member
    have noted := mem_journal_set found (List.append_nil _).symm among member
    exact noted.imp id fun none => absurd none List.not_mem_nil
  · have keptTables :
        Kept Good Fits name
          { desk with tables := desk.tables.modify target fun _ => table.erase key } := by
      apply kept.modify law target
      · intro found heldFound
        rcases Option.some.inj (held.symm.trans heldFound) with rfl
        exact table.later_restore key none
      · exact fun _ _ _ => (kept.wellFormed.rows held).erase key
      · intro found heldFound _ good
        rcases Option.some.inj (held.symm.trans heldFound) with rfl
        exact law.erase key good
    apply keptTables.withTransactions
    intro current heldCurrent other among change member
    rcases mem_journal_set found rfl among member with before | new
    · exact Or.inl before
    · refine Or.inr ?_
      rw [List.mem_singleton.mp new]
      intro here former before
      have same : target = name := (kept.wellFormed.named held).symm.trans here
      subst same
      rw [Tables.get?_replace held, if_pos rfl] at heldCurrent
      rcases Option.some.inj heldCurrent with rfl
      rcases Option.some.inj before with rfl
      exact law.lasting (table.later_restore key none) (law.found (kept.good table held) stored)

/-! ## Keys that puts come to -/

theorem resolvedKey?_put
    {table after : Table} {record : Record} {given? : Option Value} {written : Written}
    (held : desk.tables.get? name = some table)
    (done : table.put record given? = .ok (written, after)) :
    desk.resolvedKey? name (.put name record given?) =
      some ⟨written.key, !table.bringsKey record given?⟩ := by
  simp [resolvedKey?, putInto?, held, Table.resolvedKey?, done]

theorem resolvedKey?_write
    {position : Nat} {table after : Table} {transaction left : Transaction} {record : Record}
    {given? : Option Value} {key : Value}
    (found : desk.transactions[position]? = some transaction)
    (held : desk.tables.get? name = some table)
    (done : transaction.put table record given? = .ok (key, after, left)) :
    desk.resolvedKey? name (.write position (.put name record given?)) =
      some ⟨key, !table.bringsKey record given?⟩ := by
  rcases Transaction.put_table done with ⟨written, put, rfl, _⟩
  simp [resolvedKey?, putInto?, found, Transaction.mode_of_put done, held, Table.resolvedKey?, put]

theorem Kept.write
    (law : Table.Law Allowed Good Fits) (kept : desk.Kept Good Fits name) (position : Nat)
    (write : TableWrite)
    (allowed : ∀ resolved ∈ desk.resolvedKey? name (.write position write),
      Allowed resolved.key) :
    Kept Good Fits name (desk.perform (.write position write)) := by
  cases found : desk.transactions[position]? with
  | none =>
      simp only [perform, found]
      exact kept
  | some transaction =>
      have untouched :
          Kept Good Fits name ⟨desk.tables, desk.transactions.set position transaction⟩ := by
        apply kept.withTransactions
        intro _ _ other among change member
        have noted := mem_journal_set found (List.append_nil _).symm among member
        exact noted.imp id fun none => absurd none List.not_mem_nil
      cases write with
      | put target record key? =>
          cases held : desk.tables.get? target with
          | none =>
              simp only [perform, found, TableWrite.perform, Tables.attempt, held]
              exact untouched
          | some table =>
              cases done : transaction.put table record key? with
              | error error =>
                  simp only [perform, found, TableWrite.perform, Tables.attempt, held, done]
                  exact untouched
              | ok outcome =>
                  rcases outcome with ⟨key, after, left⟩
                  simp only [perform, found, TableWrite.perform, Tables.attempt, held, done]
                  apply kept.transact_put law found held done
                  rintro rfl
                  exact allowed _ (resolvedKey?_write found held done)
      | delete target key =>
          cases held : desk.tables.get? target with
          | none =>
              simp only [perform, found, TableWrite.perform, Tables.attempt, held]
              exact untouched
          | some table =>
              cases done : transaction.delete table key with
              | error error =>
                  simp only [perform, found, TableWrite.perform, Tables.attempt, held, done]
                  exact untouched
              | ok outcome =>
                  rcases outcome with ⟨deleted, after, left⟩
                  simp only [perform, found, TableWrite.perform, Tables.attempt, held, done]
                  exact kept.transact_delete law found held done

/-! ## Histories -/

/-- One event keeps what a law makes last. -/
theorem Kept.perform
    (law : Table.Law Allowed Good Fits) (kept : desk.Kept Good Fits name) (event : TableEvent)
    (allowed : ∀ resolved ∈ desk.resolvedKey? name event, Allowed resolved.key) :
    Kept Good Fits name (desk.perform event) := by
  cases event with
  | put target record given? =>
      cases held : desk.tables.get? target with
      | none =>
          simp only [Desk.perform, held]
          exact kept
      | some table =>
          cases done : table.put record given? with
          | error error =>
              simp only [Desk.perform, held, done]
              exact kept
          | ok outcome =>
              rcases outcome with ⟨written, after⟩
              simp only [Desk.perform, held, done]
              apply kept.put law held done
              rintro rfl
              exact allowed _ (resolvedKey?_put held done)
  | delete target key =>
      apply kept.modify law target
      · exact fun table _ => table.later_restore key none
      · exact fun table _ ascending => ascending.erase key
      · exact fun table _ _ good => law.erase key good
  | clear target =>
      apply kept.modify law target
      · exact fun table _ => ⟨rfl, Int.le_refl _⟩
      · exact fun table _ _ => OrderedMap.empty_ascending
      · exact fun table _ _ good => law.clear good
  | begin target mode =>
      apply kept.withTransactions
      intro table held transaction among change member
      rcases List.mem_append.mp among with before | new
      · exact Or.inl ⟨transaction, before, member⟩
      · rw [List.mem_singleton.mp new] at member
        contradiction
  | write position write => exact kept.write law position write allowed
  | commit position => exact kept.withoutTransaction position
  | rollback position =>
      cases found : desk.transactions[position]? with
      | none =>
          simp only [Desk.perform, found]
          exact kept
      | some transaction =>
          simp only [Desk.perform, found]
          have undone := kept.undo law (List.mem_of_getElem? found) fun _ member => member
          exact undone.withoutTransaction position

/-- A whole history keeps what a law makes last. -/
theorem Kept.run
    (law : Table.Law Allowed Good Fits) (kept : desk.Kept Good Fits name)
    (events : List TableEvent)
    (allowed : ∀ resolved ∈ desk.resolvedKeys name events, Allowed resolved.key) :
    Kept Good Fits name (desk.run events) := by
  induction events generalizing desk with
  | nil => exact kept
  | cons event rest ih =>
      rcases List.forall_mem_append.mp allowed with ⟨here, later⟩
      refine ih (kept.perform law event ?_) later
      exact fun resolved came => here resolved (Option.mem_toList.mpr came)

end Desk

end LiveTable
