import LiveTable.Proofs.Store.Announcing
import LiveTable.Proofs.Store.Opening
import LiveTable.Proofs.Table.History
import LiveTable.Proofs.Value.Sorting

/-!
# Keys over time

What holds of the keys of tables that a store has declared, after any history of writes and
of transactions that were committed or rolled back.

* The key of a row and the primary key field of its record are the same key, and no key is null.
* An allocated key is one under which nothing is stored, unless the counter has come to the
  end, or a put came to a floating point number that is the same key and its row is still
  there.
-/

set_option autoImplicit false

namespace LiveTable

namespace Desk

variable {Allowed : Value → Prop} {Good : Table → Prop} {Fits : Table → Value → Record → Prop}
variable {name : String}

/-- Tables as they are declared have no rows. -/
theorem declared_fresh
    {schemas : List TableSchema} {tables : Tables}
    (declared : Store.createTables schemas = .ok tables) {table : Table}
    (held : tables.get? name = some table) :
    table = .ofSchema table.schema := by
  have made := Tables.createEach_of_createTables declared
  have found := Tables.get?_createEach (congrArg Prod.fst made) name
  rw [made, held] at found
  change some table = (schemas.find? _).map Table.ofSchema at found
  rcases Option.map_eq_some_iff.mp found.symm with ⟨schema, _, rfl⟩
  rfl

/-- Where a law speaks of tables as declared, it speaks of what allowed histories make of them. -/
theorem kept_of_declared
    (law : Table.Law Allowed Good Fits) {schemas : List TableSchema} {tables : Tables}
    (declared : Store.createTables schemas = .ok tables)
    (fresh : ∀ schema, Good (.ofSchema schema)) (events : List TableEvent)
    (allowed : ∀ resolved ∈ (ofTables tables).resolvedKeys name events, Allowed resolved.key) :
    Kept Good Fits name ((ofTables tables).run events) := by
  refine Kept.run law ?_ events allowed
  constructor
  · exact Store.createTables_wellFormed declared
  · intro table held
    rw [declared_fresh declared held]
    exact fresh table.schema
  · exact fun _ among => nomatch among

end Desk

/-! ## Rows after a write -/

namespace Table

variable {table after : Table}

/-- A row after storing under a key was there before, or holds what was stored under that key. -/
theorem mem_insert_rows
    {rows : Rows} {key : Value} {record : Record} {row : Value × Record}
    (member : row ∈ (rows.insert key record).entries) :
    row ∈ rows.entries ∨ row.2 = record ∧ row.1.sameKey key := by
  rcases rows with ⟨entries⟩
  change row ∈ OrderedMap.insertIn key record entries at member
  induction entries with
  | nil =>
      rcases List.mem_singleton.mp member with rfl
      exact Or.inr ⟨rfl, Value.sameKey_refl key⟩
  | cons entry rest ih =>
      rw [OrderedMap.insertIn] at member
      split at member
      · rcases List.mem_cons.mp member with rfl | before
        · exact Or.inr ⟨rfl, Value.sameKey_refl key⟩
        · exact Or.inl before
      · next same =>
          rcases List.mem_cons.mp member with rfl | before
          · exact Or.inr ⟨rfl, Value.sameKey_symm ((Value.sameKey_iff _ _).mpr same)⟩
          · exact Or.inl (List.mem_cons_of_mem _ before)
      · rcases List.mem_cons.mp member with rfl | before
        · exact Or.inl List.mem_cons_self
        · exact (ih before).imp (List.mem_cons_of_mem _) id

theorem mem_erase_rows
    {rows : Rows} {key : Value} {row : Value × Record} (member : row ∈ (rows.erase key).entries) :
    row ∈ rows.entries :=
  (List.mem_filter.mp member).1

/-- What is found under a key is the record of a row of that key. -/
theorem row_of_get?
    {key : Value} {record : Record} (stored : table.get? key = some record) :
    ∃ row ∈ table.scan, row.2 = record ∧ row.1.sameKey key := by
  rcases Option.map_eq_some_iff.mp stored with ⟨row, found, rfl⟩
  rcases OrderedMap.findIn_some found with ⟨member, same⟩
  exact ⟨row, member, rfl, Value.sameKey_symm ((Value.sameKey_iff _ _).mpr same)⟩

/-! ## Keys and records -/

/-- A record may stand under a key: the key is not null, and the primary key field has it. -/
structure Keyed (table : Table) (key : Value) (record : Record) : Prop where
  notNull : key.isNull = false
  inRecord (plain : table.hasKeyPath = false) :
    ∃ value, record.getPath? table.schema.primaryKey = some value ∧ value.isNull = false ∧
      value.sameKey key

/-- Every row of a table stands under a key that it may stand under. -/
def AllKeyed (table : Table) : Prop :=
  ∀ row ∈ table.scan, table.Keyed row.1 row.2

theorem isNull_of_sameKey {a b : Value} (same : a.sameKey b) (notNull : b.isNull = false) :
    a.isNull = false := by
  cases a with
  | null => cases b <;> simp_all [Value.sameKey, Value.order, Value.rank, Value.isNull]
  | _ => rfl

theorem Keyed.of_sameKey
    {key other : Value} {record : Record} (keyed : table.Keyed key record)
    (same : other.sameKey key) :
    table.Keyed other record where
  notNull := isNull_of_sameKey same keyed.notNull
  inRecord plain := by
    rcases keyed.inRecord plain with ⟨value, found, notNull, sameValue⟩
    exact ⟨value, found, notNull, Value.sameKey_trans sameValue (Value.sameKey_symm same)⟩

theorem usable?_eq_some
    {value? : Option Value} {key : Value} (usable : usable? value? = some key) :
    value? = some key ∧ key.isNull = false := by
  cases value? with
  | none => contradiction
  | some value =>
      rw [usable?] at usable
      split at usable
      · contradiction
      · next notNull =>
          rcases Option.some.inj usable with rfl
          exact ⟨rfl, by simpa using notNull⟩

theorem getPath?_withKey
    (plain : table.hasKeyPath = false) (record : Record) (key : Value) :
    (table.withKey record key).getPath? table.schema.primaryKey = some key := by
  have set : (record.set table.schema.primaryKey key).get? table.schema.primaryKey = some key :=
    OrderedMap.get?_insert_self _ _ _
  rw [withKey, plain, if_neg Bool.false_ne_true, Record.getPath?, set]

/-- However a key is resolved, the record to be stored may stand under it. -/
theorem keyed_of_resolve
    {record stored : Record} {given? : Option Value} {key : Value}
    (resolved : table.resolve record given? = .ok (key, stored)) :
    table.Keyed key stored := by
  have written {key : Value} (notNull : key.isNull = false) :
      table.Keyed key (table.withKey record key) :=
    ⟨notNull, fun plain =>
      ⟨key, getPath?_withKey plain record key, notNull, Value.sameKey_refl key⟩⟩
  rw [resolve] at resolved
  split at resolved
  · next given =>
      rcases Except.ok.inj resolved with ⟨rfl, rfl⟩
      exact written (usable?_eq_some given).2
  · split at resolved
    · next inline =>
        rcases Except.ok.inj resolved with ⟨rfl, rfl⟩
        rcases usable?_eq_some inline with ⟨found, notNull⟩
        exact ⟨notNull, fun _ => ⟨_, found, notNull, Value.sameKey_refl _⟩⟩
    · split at resolved
      · rcases Except.ok.inj resolved with ⟨rfl, rfl⟩
        exact written rfl
      · contradiction

theorem Keyed.later
    {key : Value} {record : Record} (keyed : table.Keyed key record)
    (schema : after.schema = table.schema) :
    after.Keyed key record where
  notNull := keyed.notNull
  inRecord plain := by
    rw [schema]
    apply keyed.inRecord
    rwa [hasKeyPath, ← schema]

theorem AllKeyed.insert
    (keyed : table.AllKeyed) {key : Value} {record : Record} (stands : table.Keyed key record)
    (nextKey : Int64) :
    AllKeyed { table with rows := table.rows.insert key record, nextKey := nextKey } := by
  intro row member
  rcases mem_insert_rows member with before | ⟨rfl, same⟩
  · exact (keyed row before).later rfl
  · exact (stands.of_sameKey same).later rfl

theorem keyed_law : Law (fun _ => True) AllKeyed Keyed where
  put keyed done _ := by
    rcases put_ok done with ⟨resolved, _, rfl⟩
    exact keyed.insert (keyed_of_resolve resolved) _
  erase key keyed row member := (keyed row (mem_erase_rows member)).later rfl
  clear _ _ member := nomatch member
  restore keyed stands := keyed.insert stands _
  found keyed stored := by
    rcases row_of_get? stored with ⟨row, member, rfl, same⟩
    exact (keyed row member).of_sameKey (Value.sameKey_symm same)
  lasting later stands := stands.later later.schema

end Table

namespace Desk

/-- After any history on declared tables, every row stands under a key that it may stand under. -/
theorem kept_keyed
    {schemas : List TableSchema} {tables : Tables}
    (declared : Store.createTables schemas = .ok tables) (events : List TableEvent)
    (name : String) :
    Kept Table.AllKeyed Table.Keyed name ((ofTables tables).run events) := by
  have fresh (schema : TableSchema) : (Table.ofSchema schema).AllKeyed :=
    fun _ member => nomatch member
  exact kept_of_declared Table.keyed_law declared fresh events fun _ _ => trivial

/--
After any history on declared tables, every row of a table whose primary key is no path
stands under a key that is not null and that its primary key field holds in some form, and
no two rows stand under the same key.
-/
theorem keys_agree_with_records
    {schemas : List TableSchema} {tables : Tables}
    (declared : Store.createTables schemas = .ok tables) (events : List TableEvent)
    {name : String} {table : Table}
    (held : ((ofTables tables).run events).tables.get? name = some table)
    (plain : table.hasKeyPath = false) :
    (∀ row ∈ table.scan, row.1.isNull = false ∧
        ∃ value, row.2.getPath? table.schema.primaryKey = some value ∧ value.isNull = false ∧
          value.sameKey row.1) ∧
      table.scan.Pairwise fun first second => first.1.sameKey second.1 = false := by
  have kept := kept_keyed declared events name
  constructor
  · intro row member
    have keyed := kept.good table held row member
    exact ⟨keyed.notNull, keyed.inRecord plain⟩
  · apply (kept.wellFormed.rows held).imp
    intro first second before
    rw [Bool.eq_false_iff, ne_eq, Value.sameKey_iff, before]
    exact nofun

/-- A row that is deleted under another form of its key comes back under that form. -/
theorem keys_agree_after_rollback :
    let schema : TableSchema := ⟨"t", "id", true, []⟩
    let events : List TableEvent :=
      [.put "t" (.ofList [("id", .integer 1)]) none, .begin "t" .readWrite,
        .write 0 (.delete "t" (.float (.ofInt 1))), .write 0 (.put "t" .empty none), .rollback 0]
    let desk := (ofTables (.ofList [("t", .ofSchema schema)])).run events
    ∃ table row, desk.tables.get? "t" = some table ∧ table.scan.head? = some row ∧
      row.1.same (.float (.ofInt 1)) ∧
      ∃ value, row.2.getPath? table.schema.primaryKey = some value ∧ value.isNull = false ∧
        value.sameKey row.1 := by
  intro schema events desk
  have declared : Store.createTables [schema] = .ok (.ofList [("t", .ofSchema schema)]) := rfl
  have found :
      (desk.tables.get? "t").any fun table =>
        !table.hasKeyPath && table.scan.head?.any (·.1.same (.float (.ofInt 1))) := by
    subst desk events schema
    decide +kernel
  rcases (Option.any_eq_true _ _).mp found with ⟨table, held, shape⟩
  rcases Bool.and_eq_true_iff.mp shape with ⟨plain, first⟩
  rcases (Option.any_eq_true _ _).mp first with ⟨row, head, isFloat⟩
  rcases keys_agree_with_records declared events held (by simpa using plain) with ⟨agree, _⟩
  exact ⟨table, row, held, head, isFloat, (agree row (List.mem_of_head? head)).2⟩

end Desk

/-! ## Allocated keys -/

namespace Table

variable {table after : Table}

/-- A key that is the same as an integer only below the counter, or at the end of the integers. -/
def Behind (table : Table) (key : Value) : Prop :=
  ∀ n, key.sameKey (.integer n) → n.toInt < table.nextKey.toInt ∨ n = Int64.maxValue

/-- A put came to a floating point number that is the same as a key. -/
def FloatCame (came : List ResolvedKey) (key : Value) : Prop :=
  ∃ resolved ∈ came, ∃ number, resolved.key = .float number ∧ resolved.key.sameKey key

/-- A key that no allocation comes to, unless it is the same as a float that a put came to. -/
def Accounted (came : List ResolvedKey) (table : Table) (key : Value) : Prop :=
  FloatCame came key ∨ table.Behind key

/-- Every row of a table stands under a key that is accounted for. -/
def AllAccounted (came : List ResolvedKey) (table : Table) : Prop :=
  ∀ row ∈ table.scan, table.Accounted came row.1

theorem eq_of_sameKey_integer {m n : Int64} (same : (Value.integer m).sameKey (.integer n)) :
    m = n := by
  have equal : compare m.toInt n.toInt = .eq := of_decide_eq_true same
  exact Int64.toInt_inj.mp (Std.compare_eq_iff_eq.mp equal)

theorem Behind.of_sameKey {key other : Value} (behind : table.Behind key)
    (same : other.sameKey key) :
    table.Behind other :=
  fun n equal => behind n (Value.sameKey_trans (Value.sameKey_symm same) equal)

theorem Behind.later {key : Value} (behind : table.Behind key) (later : table.Later after) :
    after.Behind key :=
  fun n same => (behind n same).imp (Int.lt_of_lt_of_le · later.nextKey) id

/-- A key that was written is behind the counter as it is then, unless it is a float. -/
theorem behind_written
    {key : Value} (other : ∀ number, key ≠ .float number)
    (counted : after.nextKey = nextAfter table.nextKey key) :
    after.Behind key := by
  intro n same
  cases key with
  | integer m =>
      rcases eq_of_sameKey_integer same with rfl
      by_cases last : m = Int64.maxValue
      · exact Or.inr last
      · rw [counted]
        exact Or.inl (lt_nextAfter _ last)
  | float number => exact absurd rfl (other number)
  | _ => simp [Value.sameKey, Value.order, Value.rank] at same

variable {came : List ResolvedKey}

theorem Accounted.of_sameKey {key other : Value} (accounted : table.Accounted came key)
    (same : other.sameKey key) : table.Accounted came other := by
  rcases accounted with ⟨resolved, among, number, isFloat, equal⟩ | behind
  · refine Or.inl ⟨resolved, among, number, isFloat, ?_⟩
    exact Value.sameKey_trans equal (Value.sameKey_symm same)
  · exact Or.inr (behind.of_sameKey same)

theorem Accounted.later {key : Value} (accounted : table.Accounted came key)
    (later : table.Later after) : after.Accounted came key :=
  accounted.imp id fun behind => behind.later later

/-- A key that a put came to is accounted for: a float as such, any other by the counter. -/
theorem accounted_written
    {record : Record} {given? : Option Value} {written : Written}
    (done : table.put record given? = .ok (written, after))
    (listed : ∃ resolved ∈ came, resolved.key = written.key) :
    after.Accounted came written.key := by
  rcases put_ok done with ⟨_, _, made⟩
  have counted : after.nextKey = nextAfter table.nextKey written.key := by rw [made]
  cases key : written.key with
  | float number =>
      rcases listed with ⟨resolved, among, same⟩
      have isFloat : resolved.key = .float number := same.trans key
      exact Or.inl ⟨resolved, among, number, isFloat, isFloat ▸ Value.sameKey_refl _⟩
  | _ =>
      rw [key] at counted
      exact Or.inr (behind_written nofun counted)

theorem AllAccounted.insert
    (all : table.AllAccounted came) {key : Value} {record : Record} {nextKey : Int64}
    (later : table.Later { table with rows := table.rows.insert key record, nextKey := nextKey })
    (accounted :
      Accounted came { table with rows := table.rows.insert key record, nextKey := nextKey } key) :
    AllAccounted came
      { table with rows := table.rows.insert key record, nextKey := nextKey } := by
  intro row member
  rcases mem_insert_rows member with before | ⟨_, same⟩
  · exact (all row before).later later
  · exact accounted.of_sameKey same

theorem accounted_law (came : List ResolvedKey) :
    Law (fun key => ∃ resolved ∈ came, resolved.key = key) (AllAccounted came)
      fun table key _ => table.Accounted came key where
  put all done listed := by
    have later := later_put done
    have accounted := accounted_written done listed
    rcases put_ok done with ⟨_, _, rfl⟩
    exact all.insert later accounted
  erase key all row member := all row (mem_erase_rows member)
  clear _ _ member := nomatch member
  restore all accounted := all.insert (later_restore _ _ (some _)) accounted
  found all stored := by
    rcases row_of_get? stored with ⟨row, member, _, same⟩
    exact (all row member).of_sameKey (Value.sameKey_symm same)
  lasting later accounted := accounted.later later

/-- What allocating a key comes to. -/
theorem put_allocated
    (allocates : table.schema.autoIncrement) {record : Record} {given? : Option Value}
    (given : usable? given? = none)
    (inline : usable? (record.getPath? table.schema.primaryKey) = none) :
    table.put record given? =
      .ok (⟨.integer table.nextKey, table.withKey record (.integer table.nextKey),
          table.get? (.integer table.nextKey)⟩,
        { table with
          rows := table.rows.insert (.integer table.nextKey)
            (table.withKey record (.integer table.nextKey))
          nextKey := nextAfter table.nextKey (.integer table.nextKey) }) := by
  simp only [put, resolve, given, inline, allocates, if_true]
  rfl

end Table

namespace Desk

/--
Nothing is stored under the next key exactly if the counter has not come to the end with a row
there, and no row is left under a floating point number that is the same key and that a put of
the history came to.
-/
theorem get?_nextKey_eq_none_iff
    {schemas : List TableSchema} {tables : Tables}
    (declared : Store.createTables schemas = .ok tables) {events : List TableEvent}
    {name : String} {table : Table}
    (held : ((ofTables tables).run events).tables.get? name = some table) :
    table.get? (.integer table.nextKey) = none ↔
      (table.nextKey = Int64.maxValue → table.get? (.integer Int64.maxValue) = none) ∧
        ∀ resolved ∈ (ofTables tables).resolvedKeys name events, ∀ number,
          resolved.key = .float number → resolved.key.sameKey (.integer table.nextKey) →
            table.get? resolved.key = none := by
  have same {key : Value} (equal : key.sameKey (.integer table.nextKey)) :
      table.get? key = table.get? (.integer table.nextKey) :=
    OrderedMap.get?_congr ((Value.sameKey_iff _ _).mp equal) table.rows
  constructor
  · intro free
    refine ⟨fun last => last ▸ free, ?_⟩
    exact fun resolved _ number _ equal => (same equal).trans free
  · rintro ⟨room, floats⟩
    let came := (ofTables tables).resolvedKeys name events
    have fresh (schema : TableSchema) : (Table.ofSchema schema).AllAccounted came :=
      fun _ member => nomatch member
    have kept := kept_of_declared (Table.accounted_law came) declared fresh events
      fun resolved among => ⟨resolved, among, rfl⟩
    cases stored : table.get? (.integer table.nextKey) with
    | none => rfl
    | some former =>
        -- What is stored there came of a float, or stands behind the counter or at the end.
        rcases (Table.accounted_law came).found (kept.good table held) stored with
          ⟨resolved, among, number, isFloat, equal⟩ | behind
        · rw [← same equal, floats resolved among number isFloat equal] at stored
          contradiction
        · rcases behind _ (Value.sameKey_refl _) with below | last
          · exact absurd below (Int.lt_irrefl _)
          · rw [last, room last] at stored
            contradiction

/--
A record without a key goes under an allocated one, under which nothing was stored, and every
record stored before is still stored; unless the counter has come to the end with a row there,
or a row is left under a floating point number that is the same as the next key and that a put
of the history came to.
-/
theorem allocation_overwrites_nothing
    {schemas : List TableSchema} {tables : Tables}
    (declared : Store.createTables schemas = .ok tables) {events : List TableEvent}
    {name : String} {table : Table}
    (held : ((ofTables tables).run events).tables.get? name = some table)
    (room : table.nextKey = Int64.maxValue → table.get? (.integer Int64.maxValue) = none)
    (floats : ∀ resolved ∈ (ofTables tables).resolvedKeys name events, ∀ number,
      resolved.key = .float number → resolved.key.sameKey (.integer table.nextKey) →
        table.get? resolved.key = none)
    (allocates : table.schema.autoIncrement) {record : Record} {given? : Option Value}
    (given : Table.usable? given? = none)
    (inline : Table.usable? (record.getPath? table.schema.primaryKey) = none) :
    ∃ written after, table.put record given? = .ok (written, after) ∧
      written.key = .integer table.nextKey ∧ written.replaced? = none ∧
      table.get? written.key = none ∧ after.get? written.key = some written.record ∧
      ∀ key stored, table.get? key = some stored → after.get? key = some stored := by
  have free : table.get? (.integer table.nextKey) = none :=
    (get?_nextKey_eq_none_iff declared held).mpr ⟨room, floats⟩
  refine ⟨_, _, Table.put_allocated allocates given inline, rfl, free, free, ?_, ?_⟩
  · exact OrderedMap.get?_insert_self _ _ _
  · intro key stored found
    show OrderedMap.get? (table.rows.insert _ _) key = some stored
    rw [OrderedMap.get?_insert]
    split
    · next same =>
        have missing : table.get? key = none := by
          rw [Table.get?, OrderedMap.get?_congr same]
          exact free
        rw [missing] at found
        contradiction
    · exact found

/--
A key that was rolled back stays below the counter, and so does a floating point number that is
written afterwards; one that is the same as the next key does no harm once its row is deleted.
-/
theorem allocation_passes_rolled_back_key :
    let schema : TableSchema := ⟨"t", "id", true, []⟩
    let keyed (key : Value) : Record := .ofList [("id", key)]
    let events : List TableEvent :=
      [.begin "t" .readWrite, .write 0 (.put "t" (keyed (.integer 7)) none), .rollback 0,
        .put "t" (keyed (.float (.ofInt 2))) none, .put "t" (keyed (.float (.ofInt 8))) none,
        .delete "t" (.integer 8)]
    let desk := (ofTables (.ofList [("t", .ofSchema schema)])).run events
    ∃ table written after, desk.tables.get? "t" = some table ∧ table.nextKey = 8 ∧
      table.put .empty none = .ok (written, after) ∧ written.key = .integer table.nextKey ∧
      written.replaced? = none ∧
      ∀ key stored, table.get? key = some stored → after.get? key = some stored := by
  intro schema keyed events desk
  have declared : Store.createTables [schema] = .ok (.ofList [("t", .ofSchema schema)]) := rfl
  let came := (ofTables (.ofList [("t", .ofSchema schema)])).resolvedKeys "t" events
  have found :
      (desk.tables.get? "t").any fun table =>
        decide (table.nextKey = 8) && table.schema.autoIncrement &&
          (Table.usable? (Record.empty.getPath? table.schema.primaryKey)).isNone &&
            came.all fun resolved =>
              !resolved.key.sameKey (.integer table.nextKey) ||
                (table.get? resolved.key).isNone := by
    subst came desk events keyed schema
    decide +kernel
  rcases (Option.any_eq_true _ _).mp found with ⟨table, held, shape⟩
  simp only [Bool.and_eq_true, decide_eq_true_eq, Option.isNone_iff_eq_none, List.all_eq_true,
    Bool.or_eq_true, Bool.not_eq_true'] at shape
  rcases shape with ⟨⟨⟨counter, allocates⟩, inline⟩, passed⟩
  have room (last : table.nextKey = Int64.maxValue) :
      table.get? (.integer Int64.maxValue) = none :=
    absurd (counter.symm.trans last) (by decide)
  have floats : ∀ resolved ∈ came, ∀ number, resolved.key = .float number →
      resolved.key.sameKey (.integer table.nextKey) → table.get? resolved.key = none := by
    intro resolved among number _ equal
    exact (passed resolved among).resolve_left (by simp [equal])
  have noKey : Table.usable? none = none := rfl
  rcases allocation_overwrites_nothing declared held room floats allocates noKey inline with
    ⟨written, after, done, key, replaced, _, _, kept⟩
  exact ⟨table, written, after, held, counter, done, key, replaced, kept⟩

/--
An allocated key can be one that a row stands under: where that is a floating point number,
and where it is the greatest integer.
-/
theorem allocation_overwrites :
    let schema : TableSchema := ⟨"t", "id", true, []⟩
    let after (key : Value) : Desk :=
      (ofTables (.ofList [("t", .ofSchema schema)])).run
        [.put "t" (.ofList [("id", key)]) none]
    ∀ key ∈ [Value.float (.ofInt 1), .integer Int64.maxValue],
      ((after key).tables.get? "t").any fun table =>
        match table.put .empty none with
        | .ok (written, _) => written.replaced?.isSome
        | .error _ => false := by
  decide +kernel

end Desk

end LiveTable
