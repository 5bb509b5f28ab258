import Mathlib.Data.List.Infix
import Mathlib.Data.Set.List
import LiveTable.Proofs.Store.Frame
import LiveTable.Proofs.Store.Keys

/-!
# Allocated keys over time

Which keys a table allocates depends on its counter alone, and the counter is moved by puts
and by nothing else: a row that is deleted, cleared away or rolled back leaves the counter
where it is.

The counter is ahead of all integers among them, whether or not their rows are still there.
It stops at the greatest integer, which is why nothing is said here once a row stands under
that one.
-/

set_option autoImplicit false

namespace LiveTable

/-- Where the former key is an integer, the latter is a greater one, if it was allocated. -/
def ResolvedKey.Rises (former latter : ResolvedKey) : Prop :=
  latter.allocated → ∀ n, former.key = .integer n → ∃ m, latter.key = .integer m ∧ n < m

/-! ## One put -/

namespace Table

variable {table after : Table} {record : Record} {given? : Option Value} {written : Written}

/-- The table after a put, which is as before where the put is refused. -/
def afterPut (table : Table) (record : Record) (given? : Option Value) : Table :=
  match table.put record given? with
  | .ok (_, after) => after
  | .error _ => table

theorem bringsKey_eq_false (keyless : table.bringsKey record given? = false) :
    usable? given? = none ∧ usable? (record.getPath? table.schema.primaryKey) = none := by
  simpa [bringsKey] using keyless

/-- A key that was allocated is the counter. -/
theorem key_of_allocated
    (done : table.put record given? = .ok (written, after))
    (keyless : table.bringsKey record given? = false) :
    written.key = .integer table.nextKey := by
  rcases bringsKey_eq_false keyless with ⟨given, inline⟩
  have resolved := (put_ok done).1
  simp only [resolve, given, inline] at resolved
  split at resolved
  · exact (congrArg Prod.fst (Except.ok.inj resolved)).symm
  · contradiction

/-- A table that allocates keys has one for every record without a key. -/
theorem resolvedKey?_of_keyless
    (allocates : table.schema.autoIncrement) (keyless : table.bringsKey record given? = false) :
    table.resolvedKey? record given? = some ⟨.integer table.nextKey, true⟩ := by
  rcases bringsKey_eq_false keyless with ⟨given, inline⟩
  simp only [resolvedKey?, put_allocated allocates given inline, keyless, Bool.not_false]

theorem get?_after_put (done : table.put record given? = .ok (written, after)) :
    after.get? written.key = some written.record := by
  rcases put_ok done with ⟨_, _, rfl⟩
  exact OrderedMap.get?_insert_self _ _ _

/-- Two states of a table that differ in nothing but their rows. -/
structure SameButRows (before after : Table) : Prop where
  schema : after.schema = before.schema
  nextKey : after.nextKey = before.nextKey

theorem SameButRows.refl (table : Table) : table.SameButRows table :=
  ⟨rfl, rfl⟩

theorem SameButRows.trans {middle : Table} (early : table.SameButRows middle)
    (late : middle.SameButRows after) : table.SameButRows after :=
  ⟨late.schema.trans early.schema, late.nextKey.trans early.nextKey⟩

theorem sameButRows_restore (table : Table) (key : Value) (before? : Option Record) :
    table.SameButRows (table.restore key before?) := by
  cases before? <;> exact ⟨rfl, rfl⟩

end Table

/-- A put of a transaction that may write is a put of the table, which the journal notes. -/
theorem Transaction.put_of_readWrite {transaction : Transaction}
    (writable : transaction.mode = .readWrite) (table : Table) (record : Record)
    (given? : Option Value) :
    transaction.put table record given? =
      (table.put record given?).map fun outcome =>
        (outcome.1.key, outcome.2, transaction.note
          (.put outcome.2.name outcome.1.key outcome.1.record outcome.1.replaced?)) := by
  have permitted : transaction.checkWritable = .ok () := by rw [checkWritable, writable]
  simp only [put, permitted, bind, Except.bind, pure, Except.pure]
  cases table.put record given? <;> rfl

/-! ## Tables whose rows change -/

/-- The table of a name is there, and has the schema and the counter of a given one. -/
def Tables.CountsAs (tables : Tables) (name : String) (table : Table) : Prop :=
  ∃ current, tables.get? name = some current ∧ table.SameButRows current

namespace Tables

variable {tables : Tables} {name : String} {table : Table}

theorem countsAs_of_held (held : tables.get? name = some table) : tables.CountsAs name table :=
  ⟨table, held, .refl table⟩

/-- A change of one table is not seen in the counter of another, nor if it leaves its own alone. -/
theorem CountsAs.modify
    (counts : tables.CountsAs name table) {changed : String} {change : Table → Table}
    (same : changed = name → ∀ current, tables.get? name = some current →
      current.SameButRows (change current)) :
    CountsAs (tables.modify changed change) name table := by
  rcases counts with ⟨current, held, alike⟩
  rw [CountsAs, OrderedMap.get?_modify, held]
  by_cases here : name = changed
  · rw [if_pos (Std.compare_eq_iff_eq.mpr here)]
    exact ⟨change current, rfl, alike.trans (same here.symm current held)⟩
  · rw [if_neg (mt Std.compare_eq_iff_eq.mp here)]
    exact ⟨current, rfl, alike⟩

theorem CountsAs.undo (counts : tables.CountsAs name table) (journal : Journal) :
    CountsAs (journal.undo tables) name table := by
  induction journal with
  | nil => exact counts
  | cons change rest ih =>
      rw [Journal.undo_cons]
      exact ih.modify fun _ current _ => current.sameButRows_restore _ _

/-- What a transaction attempts leaves a counter alone if it changes rows only. -/
theorem CountsAs.attempt {α : Type} {pool : Tables × Transaction}
    (counts : pool.1.CountsAs name table) {target : String}
    {write : Transaction → Table → Except Error (α × Table × Transaction)}
    (same : ∀ current outcome, target = name → write pool.2 current = .ok outcome →
      current.SameButRows outcome.2.1) :
    CountsAs (attempt pool target write).1 name table := by
  rw [Tables.attempt]
  split
  · exact counts
  · next current held =>
      split
      · exact counts
      · next after left done =>
          refine counts.modify fun here found heldFound => ?_
          rcases here with rfl
          rcases Option.some.inj (held.symm.trans heldFound) with rfl
          exact same _ _ rfl done

end Tables

/-! ## One event -/

namespace Desk

variable {desk : Desk} {name : String} {table : Table}

theorem putInto?_write {position : Nat} {target : String} {record : Record}
    {given? : Option Value} {transaction : Transaction}
    (found : desk.transactions[position]? = some transaction) :
    desk.putInto? name (.write position (.put target record given?)) =
      if target = name ∧ transaction.mode = .readWrite then some (record, given?) else none := by
  simp [putInto?, found]

/-- A put into the table of a name makes of it what a put makes of a table. -/
theorem held_after_put {event : TableEvent} {record : Record} {given? : Option Value}
    (asked : desk.putInto? name event = some (record, given?))
    (held : desk.tables.get? name = some table) :
    (desk.perform event).tables.get? name = some (table.afterPut record given?) := by
  have replaced (after : Table) :
      OrderedMap.get? (desk.tables.modify name fun _ => after) name = some after := by
    rw [Tables.get?_replace held, if_pos rfl]
  cases event with
  | put target =>
      rw [putInto?, Option.ite_none_right_eq_some] at asked
      rcases asked with ⟨rfl, same⟩
      rcases Option.some.inj same with ⟨rfl, rfl⟩
      simp only [perform, held, Table.afterPut]
      cases table.put record given? with
      | error error => exact held
      | ok outcome => exact replaced outcome.2
  | write position write =>
      cases write with
      | delete => cases asked
      | put target =>
          cases found : desk.transactions[position]? with
          | none => simp [putInto?, found] at asked
          | some transaction =>
              rw [putInto?_write found, Option.ite_none_right_eq_some] at asked
              rcases asked with ⟨⟨rfl, writable⟩, same⟩
              rcases Option.some.inj same with ⟨rfl, rfl⟩
              simp only [perform, found, TableWrite.perform, Tables.attempt, held, Table.afterPut,
                Transaction.put_of_readWrite writable]
              cases table.put record given? with
              | error error => exact held
              | ok outcome => exact replaced outcome.2
  | _ => cases asked

/-- A write that is no put into the table of a name leaves the counter of that table alone. -/
theorem countsAs_of_write {position : Nat} {write : TableWrite} {transaction : Transaction}
    (found : desk.transactions[position]? = some transaction)
    (noPut : desk.putInto? name (.write position write) = none)
    (counts : desk.tables.CountsAs name table) :
    (write.perform (desk.tables, transaction)).1.CountsAs name table := by
  cases write with
  | put target record given? =>
      apply counts.attempt
      rintro current ⟨key, after, left⟩ rfl done
      rw [putInto?_write found, ite_eq_right_iff] at noPut
      -- A put into this very table is counted, for its transaction may write.
      cases noPut ⟨rfl, Transaction.mode_of_put done⟩
  | delete target key =>
      apply counts.attempt
      rintro current ⟨deleted, after, left⟩ _ done
      rcases Transaction.delete_table done with ⟨rfl, _⟩ | ⟨_, _, rfl, _⟩
      · exact .refl after
      · exact current.sameButRows_restore key none

/-- Whatever is no put into the table of a name leaves the counter of that table alone. -/
theorem countsAs_of_no_put {event : TableEvent} (noPut : desk.putInto? name event = none)
    (held : desk.tables.get? name = some table) :
    (desk.perform event).tables.CountsAs name table := by
  have counts := Tables.countsAs_of_held held
  cases event with
  | put target record given? =>
      have elsewhere : target ≠ name := by simpa [putInto?] using noPut
      rw [perform]
      split
      · exact counts
      · split
        · exact counts
        · exact counts.modify fun here => absurd here elsewhere
  | delete target key =>
      exact counts.modify fun _ current _ => current.sameButRows_restore key none
  | clear target => exact counts.modify fun _ _ _ => ⟨rfl, rfl⟩
  | begin target mode => exact counts
  | write position write =>
      cases found : desk.transactions[position]? with
      | none =>
          simp only [perform, found]
          exact counts
      | some transaction =>
          simp only [perform, found]
          exact countsAs_of_write found noPut counts
  | commit position => exact counts
  | rollback position =>
      cases found : desk.transactions[position]? with
      | none =>
          simp only [perform, found]
          exact counts
      | some transaction =>
          simp only [perform, found]
          exact counts.undo transaction.journal

end Desk

/-! ## Counters ahead of keys -/

/--
A counter is ahead of all integers among the keys that puts came to, and was ahead of all those
that came earlier whenever a key was allocated.
-/
structure CounterAhead (keys : List ResolvedKey) (counter : Int64) : Prop where
  above : ∀ former ∈ keys, ∀ n, former.key = .integer n → n < counter
  integers : ∀ latter ∈ keys, latter.allocated → ∃ m, latter.key = .integer m
  rising : keys.Pairwise ResolvedKey.Rises

namespace CounterAhead

variable {keys : List ResolvedKey} {counter : Int64}

theorem nil (counter : Int64) : CounterAhead [] counter where
  above := List.forall_mem_nil _
  integers := List.forall_mem_nil _
  rising := .nil

/-- The counter moves ahead of the next key, allocated or not, unless there is none after it. -/
theorem concat
    (ahead : CounterAhead keys counter) {next : ResolvedKey}
    (counted : next.allocated → next.key = .integer counter)
    (notLast : next.key ≠ .integer Int64.maxValue) :
    CounterAhead (keys ++ [next]) (Table.nextAfter counter next.key) where
  above := by
    intro former member n isInteger
    rw [Int64.lt_iff_toInt_lt]
    rcases List.mem_append.mp member with early | new
    · have below := Int64.lt_iff_toInt_lt.mp (ahead.above former early n isInteger)
      exact Int.lt_of_lt_of_le below (Table.le_nextAfter counter next.key)
    · rw [List.mem_singleton.mp new] at isInteger
      rw [isInteger] at notLast ⊢
      exact Table.lt_nextAfter counter fun last => notLast (congrArg Value.integer last)
  integers := by
    intro latter member allocated
    rcases List.mem_append.mp member with early | new
    · exact ahead.integers latter early allocated
    · rcases List.mem_singleton.mp new with rfl
      exact ⟨counter, counted allocated⟩
  rising := by
    refine List.pairwise_append.mpr ⟨ahead.rising, List.pairwise_singleton _ _, ?_⟩
    intro former early latter new allocated n isInteger
    rcases List.mem_singleton.mp new with rfl
    exact ⟨counter, counted allocated, ahead.above former early n isInteger⟩

/-- A put keeps the counter ahead, if nothing is stored under the greatest integer afterwards. -/
theorem put
    {table after : Table} (ahead : CounterAhead keys table.nextKey) {record : Record}
    {given? : Option Value} {written : Written}
    (done : table.put record given? = .ok (written, after))
    (room : after.get? (.integer Int64.maxValue) = none) :
    CounterAhead (keys ++ [⟨written.key, !table.bringsKey record given?⟩]) after.nextKey := by
  rw [(Table.put_ok done).2.2]
  apply ahead.concat
  · intro allocated
    exact Table.key_of_allocated done (by simpa using allocated)
  · -- The record is found under its key afterwards, so that key is not the greatest integer.
    intro last
    have stored := Table.get?_after_put done
    rw [show written.key = .integer Int64.maxValue from last, room] at stored
    contradiction

/-- The keys that were allocated are integers, each greater than the one before. -/
theorem allocated_ascend (ahead : CounterAhead keys counter) :
    ∃ allocated : List Int64,
      (keys.filter (·.allocated)).map (·.key) = allocated.map .integer ∧
        allocated.Pairwise (· < ·) := by
  have integers : (keys.filter (·.allocated)).map (·.key) ∈ Set.range (List.map Value.integer) := by
    rw [Set.range_list_map]
    intro key member
    rcases List.mem_map.mp member with ⟨latter, among, rfl⟩
    rcases List.mem_filter.mp among with ⟨listed, allocated⟩
    rcases ahead.integers latter listed allocated with ⟨m, isInteger⟩
    exact ⟨m, isInteger.symm⟩
  rcases integers with ⟨allocated, same⟩
  refine ⟨allocated, same.symm, ?_⟩
  -- What is said of keys as values is carried over to the integers that they are.
  have rising : ((keys.filter (·.allocated)).map (·.key)).Pairwise
      fun former latter => ∀ n m, former = .integer n → latter = .integer m → n < m := by
    rw [List.pairwise_map, List.pairwise_filter]
    refine ahead.rising.imp ?_
    intro former latter rises _ allocated n m isFormer isLatter
    rcases rises allocated n isFormer with ⟨m', isLatter', less⟩
    rcases Value.integer.inj (isLatter.symm.trans isLatter') with rfl
    exact less
  rw [← same, List.pairwise_map] at rising
  exact rising.imp fun less => less _ _ rfl rfl

end CounterAhead

/-! ## Histories -/

namespace Desk

variable {desk : Desk} {name : String} {table : Table}

theorem run_concat (desk : Desk) (events : List TableEvent) (event : TableEvent) :
    desk.run (events ++ [event]) = (desk.run events).perform event := by
  rw [run, List.foldl_append]
  rfl

theorem resolvedKeys_concat
    (desk : Desk) (name : String) (events : List TableEvent) (event : TableEvent) :
    desk.resolvedKeys name (events ++ [event]) =
      desk.resolvedKeys name events ++ ((desk.run events).resolvedKey? name event).toList := by
  induction events generalizing desk with
  | nil => exact List.append_nil _
  | cons first rest ih =>
      rw [List.cons_append, resolvedKeys, resolvedKeys, ih, List.append_assoc]
      rfl

/--
One event keeps the counter of a table ahead of the keys of its puts, if nothing is stored
under the greatest integer afterwards.
-/
theorem ahead_of_perform
    {keys : List ResolvedKey} (ahead : CounterAhead keys table.nextKey) {event : TableEvent}
    (held : desk.tables.get? name = some table)
    (room : (desk.perform event).Has name fun after =>
      after.get? (.integer Int64.maxValue) = none) :
    ∃ after, (desk.perform event).tables.get? name = some after ∧
      after.schema = table.schema ∧
        CounterAhead (keys ++ (desk.resolvedKey? name event).toList) after.nextKey := by
  cases asked : desk.putInto? name event with
  | none =>
      rcases countsAs_of_no_put asked held with ⟨after, heldAfter, alike⟩
      refine ⟨after, heldAfter, alike.schema, ?_⟩
      have noKey : desk.resolvedKey? name event = none := by rw [resolvedKey?, asked]
      rw [noKey, alike.nextKey, Option.toList_none, List.append_nil]
      exact ahead
  | some put =>
      rcases put with ⟨record, given?⟩
      have heldAfter := held_after_put asked held
      have key : desk.resolvedKey? name event = table.resolvedKey? record given? := by
        rw [resolvedKey?, asked, held]
      cases done : table.put record given? with
      | error error =>
          rw [Table.afterPut, done] at heldAfter
          refine ⟨table, heldAfter, rfl, ?_⟩
          rw [key, Table.resolvedKey?, done, Option.toList_none, List.append_nil]
          exact ahead
      | ok outcome =>
          rcases outcome with ⟨written, after⟩
          rw [Table.afterPut, done] at heldAfter
          refine ⟨after, heldAfter, by rw [(Table.put_ok done).2.2], ?_⟩
          rw [key, Table.resolvedKey?, done]
          exact ahead.put done (room after heldAfter)

/-- A history keeps the counter of a table ahead of the keys of its puts. -/
theorem ahead_of_run
    (held : desk.tables.get? name = some table) (events : List TableEvent)
    (room : ∀ early, early <+: events → (desk.run early).Has name fun current =>
      current.get? (.integer Int64.maxValue) = none) :
    ∃ after, (desk.run events).tables.get? name = some after ∧ after.schema = table.schema ∧
      CounterAhead (desk.resolvedKeys name events) after.nextKey := by
  -- The last event is split off: the keys before it are those that the counter has passed.
  induction events using List.reverseRecOn with
  | nil => exact ⟨table, held, rfl, .nil _⟩
  | append_singleton events event ih =>
      rcases ih fun early before => room early (before.trans (List.prefix_append _ _)) with
        ⟨current, heldCurrent, schema, ahead⟩
      have roomAfter := room _ (List.prefix_refl _)
      rw [run_concat] at roomAfter ⊢
      rw [resolvedKeys_concat]
      rcases ahead_of_perform ahead heldCurrent roomAfter with ⟨after, heldAfter, same, further⟩
      exact ⟨after, heldAfter, same.trans schema, further⟩

/--
As long as nothing is stored under the greatest integer, no key is allocated twice in a history
of a table, nor is one that a put came to before: the keys that are allocated are integers that
ascend, and each is above every integer key that an earlier put came to, whether that was given
or allocated, and whether or not its row has since been deleted, cleared away or rolled back.
A table that allocates keys has such a key for every record that comes without one.
-/
theorem allocated_keys_ascend
    (held : desk.tables.get? name = some table) (allocates : table.schema.autoIncrement)
    (events : List TableEvent)
    (room : ∀ early, early <+: events → (desk.run early).Has name fun current =>
      current.get? (.integer Int64.maxValue) = none) :
    (∃ allocated : List Int64,
        ((desk.resolvedKeys name events).filter (·.allocated)).map (·.key) =
            allocated.map .integer ∧
          allocated.Pairwise (· < ·)) ∧
      (desk.resolvedKeys name events).Pairwise ResolvedKey.Rises ∧
      ∀ record given?, table.bringsKey record given? = false →
        ∃ next, (desk.run events).resolvedKey? name (.put name record given?) =
            some ⟨.integer next, true⟩ ∧
          ∀ former ∈ desk.resolvedKeys name events, ∀ n, former.key = .integer n → n < next := by
  rcases ahead_of_run held events room with ⟨after, heldAfter, schema, ahead⟩
  refine ⟨ahead.allocated_ascend, ahead.rising, ?_⟩
  intro record given? keyless
  refine ⟨after.nextKey, ?_, ahead.above⟩
  have asked :
      (desk.run events).putInto? name (.put name record given?) = some (record, given?) :=
    if_pos rfl
  rw [resolvedKey?, asked, heldAfter]
  apply Table.resolvedKey?_of_keyless
  · rw [schema]
    exact allocates
  · rw [Table.bringsKey, schema]
    exact keyless

/--
Keys are allocated past keys that are given, rolled back and cleared away; neither a floating
point number nor a negative key moves the counter, nor does a transaction that only reads.
-/
theorem allocated_keys_ascend_past_rollback :
    let schema : TableSchema := ⟨"t", "id", true, []⟩
    let keyed (key : Value) : Record := .ofList [("id", key)]
    let events : List TableEvent :=
      [.put "t" .empty none, .put "t" (keyed (.integer 7)) none, .begin "t" .readWrite,
        .write 0 (.put "t" .empty none), .write 0 (.put "t" (keyed (.integer 20)) none),
        .write 0 (.delete "t" (.integer 7)), .rollback 0, .put "t" .empty (some .null),
        .clear "t", .put "t" (keyed (.float (.ofInt 40))) none,
        .put "t" (keyed .null) (some (.integer (-3))), .begin "t" .readOnly,
        .write 0 (.put "t" .empty none), .commit 0, .put "t" .empty none]
    let desk := ofTables (.ofList [("t", .ofSchema schema)])
    let keys := desk.resolvedKeys "t" events
    keys.map (fun resolved => (resolved.key.asInteger?, resolved.allocated)) =
        [(some 1, true), (some 7, false), (some 8, true), (some 20, false), (some 21, true),
          (none, false), (some (-3), false), (some 22, true)] ∧
      (∃ allocated : List Int64,
        (keys.filter (·.allocated)).map (·.key) = allocated.map .integer ∧
          allocated.Pairwise (· < ·)) ∧
      keys.Pairwise ResolvedKey.Rises ∧
      ∃ next, (desk.run events).resolvedKey? "t" (.put "t" .empty none) =
          some ⟨.integer next, true⟩ ∧
        ∀ former ∈ keys, ∀ n, former.key = .integer n → n < next := by
  intro schema keyed events desk keys
  have held : desk.tables.get? "t" = some (.ofSchema schema) :=
    OrderedMap.get?_insert_self .empty "t" (Table.ofSchema schema)
  have listed :
      keys.map (fun resolved => (resolved.key.asInteger?, resolved.allocated)) =
        [(some 1, true), (some 7, false), (some 8, true), (some 20, false), (some 21, true),
          (none, false), (some (-3), false), (some 22, true)] := by
    subst keys desk events keyed schema
    decide +kernel
  have steps :
      ∀ early ∈ events.inits, ((desk.run early).tables.get? "t").all fun current =>
        (current.get? (.integer Int64.maxValue)).isNone := by
    subst keys desk events keyed schema
    decide +kernel
  have room (early : List TableEvent) (before : early <+: events) :
      (desk.run early).Has "t" fun current => current.get? (.integer Int64.maxValue) = none := by
    intro current heldCurrent
    have passed := steps early ((List.mem_inits _ _).mpr before)
    rw [heldCurrent] at passed
    exact Option.isNone_iff_eq_none.mp passed
  rcases allocated_keys_ascend held rfl events room with ⟨ascend, rising, further⟩
  have keyless : (Table.ofSchema schema).bringsKey .empty none = false := by
    subst keys desk events keyed schema
    decide +kernel
  exact ⟨listed, ascend, rising, further .empty none keyless⟩

end Desk

end LiveTable
