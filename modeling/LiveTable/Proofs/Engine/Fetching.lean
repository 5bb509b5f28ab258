import LiveTable.Engine.ItemCache
import LiveTable.Engine.Unit
import LiveTable.Proofs.Items.Lookup
import LiveTable.Proofs.Store.Announcing
import LiveTable.Proofs.Store.Keys
import LiveTable.Proofs.Table.Index

/-!
# What a fetch shows

A fetch selects the rows whose id is the same key as a tracked one, sorted by their ids and
then by their keys, and collects their records by id.  What is found afterwards under an
id is the record of a row that has this id, the one with the greatest key if the rows give
the id in one form; where the id field is the primary key it is what the table has
under the id.

An empty id field names no field, and a clause without a field selects everything.
-/

set_option autoImplicit false

namespace LiveTable

namespace ItemCache

/-- The rows of a table that have an id, in the order of their keys. -/
def rowsFor (idField : String) (table : Table) (id : Value) : List (Value × Record) :=
  table.scan.filter fun row => (Table.indexed? row.2 idField).any id.sameKey

/-- Rows give their ids in one form: ids that are equal, and not the same key only. -/
def InOneForm (idField : String) (rows : List (Value × Record)) : Prop :=
  rows.Pairwise fun a b => ∀ idA idB,
    a.2.getPath? idField = some idA → b.2.getPath? idField = some idB → idA.same idB

/--
The items of a cache show a table: under an id that is tracked and that some row has, a
record of such a row is found, the one with the greatest key if the ids are given in
one form, and under any other id nothing.  If ids are keys, it is what the table has.
-/
structure Shows (cache : ItemCache) (table : Table) : Prop where
  present (id : Value) :
    (cache.items.find? id).isSome ↔
      cache.tracked.contains id ∧ rowsFor cache.idField table id ≠ []
  listed {id : Value} {record : Record} (found : cache.items.find? id = some record) :
    ∃ row ∈ rowsFor cache.idField table id, row.2 = record
  latest {id : Value} (tracked : cache.tracked.contains id)
    (some : rowsFor cache.idField table id ≠ [])
    (oneForm : InOneForm cache.idField (rowsFor cache.idField table id)) :
    ∃ row ∈ rowsFor cache.idField table id, cache.items.find? id = Option.some row.2 ∧
      ∀ other ∈ rowsFor cache.idField table id, other.1.notAfter row.1
  byKey (primary : cache.idField = table.schema.primaryKey) (plain : table.hasKeyPath = false)
    (id : Value) :
    cache.items.find? id =
      if cache.tracked.contains id && !id.isNull then table.get? id else none

variable {cache : ItemCache} {table : Table}

/-! ## The selection -/

/-- The collection that a fetch comes to: one match of the id field with the tracked ids. -/
def selection (cache : ItemCache) : Collection :=
  Collection.all.matching cache.idField (.anyOf cache.tracked.keys)

/-- A fetch plans the selection; without the name of an id field it selects every row. -/
theorem plan_descriptor (cache : ItemCache) (schema : TableSchema) :
    cache.descriptor.plan schema =
      .ok (if cache.idField.isEmpty then .all else cache.selection) := by
  have coerced :
      Condition.ofComparison "anyOf" (some (.array cache.tracked.keys)) =
        .ok (.anyOf cache.tracked.keys) := rfl
  cases named : cache.idField.isEmpty <;>
  · simp only [Descriptor.plan, Descriptor.selection, Descriptor.clauses?, descriptor,
      Descriptor.withClause, Descriptor.all, Option.getD_none, List.nil_append, Option.filter,
      List.isEmpty_cons, Bool.not_false, if_true, Clause.comparison, Clause.attachAll,
      Clause.attachTree, Clause.attachOwn, Clause.isMissingIn, Clause.isMissing,
      Clause.fieldName?, Clause.joinIn, Clause.attach, coerced, named]
    rfl

/-- The rows that a fetch selects, in the order of their keys. -/
def selected (cache : ItemCache) (table : Table) : List (Value × Record) :=
  ((table.scan.filter fun row =>
    (Condition.anyOf cache.tracked.keys).holds (row.2.getPath? cache.idField)).foldl
      (fun rows row => rows.insert row.1 row.2) OrderedMap.empty).entries

theorem ordered_selection (cache : ItemCache) (table : Table) :
    cache.selection.ordered table = Table.sortedBy cache.idField (cache.selected table) :=
  Table.ordered_of_match table cache.idField (.anyOf cache.tracked.keys)

/-- A fetch answers the records of its selection. -/
theorem answer_of_fetch
    (named : cache.idField.isEmpty = false) (ascending : table.rows.Ascending) {name : String}
    {answer : QueryResult}
    (answered :
      (Work.runOn cache.descriptor.run ⟨table, .begin name cache.descriptor.mode⟩).1 =
        .ok answer) :
    answer = .records ((cache.selection.ordered table).map Prod.snd) := by
  rw [cache.descriptor.runOn_own_mode ascending, plan_descriptor, named] at answered
  exact (Except.ok.inj answered).symm

theorem contains_eq_any (tracked : ValueSet) (id : Value) :
    tracked.contains id = tracked.keys.any id.sameKey := by
  rw [Bool.eq_iff_iff, List.any_eq_true, OrderedMap.contains, Option.isSome_iff_ne_none,
    OrderedMap.findEntry?, ne_eq, OrderedMap.findIn_none_iff]
  simp only [OrderedMap.keys, List.mem_map, not_forall, not_not]
  constructor
  · rintro ⟨entry, member, same⟩
    exact ⟨entry.1, ⟨entry, member, rfl⟩, (Value.sameKey_iff _ _).mpr same⟩
  · rintro ⟨_, ⟨entry, member, rfl⟩, same⟩
    exact ⟨entry, member, (Value.sameKey_iff _ _).mp same⟩

theorem contains_congr (tracked : ValueSet) {id other : Value} (same : id.sameKey other) :
    tracked.contains id = tracked.contains other := by
  have equal : id.sameKey = other.sameKey := by
    funext key
    rw [Value.sameKey, Value.sameKey, Value.order_congr_left same]
  rw [contains_eq_any, contains_eq_any, equal]

/-- A record matches if it has an id that is no null and that is tracked. -/
theorem holds_anyOf (tracked : ValueSet) (value? : Option Value) :
    (Condition.anyOf tracked.keys).holds value? =
      (Table.usable? value?).any fun id => tracked.contains id := by
  cases value? with
  | none => rfl
  | some value =>
      cases value with
      | null => rfl
      | _ => exact (contains_eq_any tracked _).symm

/-- Of the selected rows those with an id are the rows that have it, if it is tracked. -/
theorem filter_selection
    (ascending : table.rows.Ascending) (cache : ItemCache) (id : Value) :
    (cache.selection.ordered table).filter (Table.hasId cache.idField id) =
      if cache.tracked.contains id then rowsFor cache.idField table id else [] := by
  have permuted := Table.ordered_of_match_perm ascending cache.idField (.anyOf cache.tracked.keys)
  have ordered := Table.sortedBy_ordered cache.idField (cache.selected table)
  rw [← ordered_selection] at ordered
  rw [selection, Table.filter_hasId_of_ordered ascending List.filter_sublist permuted ordered,
    List.filter_filter]
  simp only [holds_anyOf]
  cases tracked : cache.tracked.contains id with
  | true =>
      rw [if_pos rfl]
      apply List.filter_congr
      intro row _
      rw [Table.hasId, Table.indexed?]
      cases found : row.2.getPath? cache.idField with
      | none => rfl
      | some value =>
          cases same : id.sameKey value with
          | true =>
              rw [contains_congr cache.tracked same] at tracked
              cases value <;> simp_all [Table.usable?, Value.isNull]
          | false => cases value <;> simp_all [Table.usable?, Value.isNull]
  | false =>
      rw [if_neg Bool.false_ne_true]
      apply List.filter_eq_nil_iff.mpr
      intro row _ selected
      rcases Bool.and_eq_true_iff.mp selected with ⟨hasId, matched⟩
      rcases (Option.any_eq_true _ _).mp hasId with ⟨value, found, same⟩
      rcases (Option.any_eq_true _ _).mp matched with ⟨usable, found', isTracked⟩
      rcases Table.usable?_eq_some found' with ⟨foundUsable, _⟩
      rcases Option.some.inj (found.symm.trans foundUsable) with rfl
      rw [contains_congr cache.tracked same, isTracked] at tracked
      contradiction

/-! ## What is collected -/

/-- A record with its id. -/
def withId? (idField : String) (row : Value × Record) : Option (Value × Record) :=
  (row.2.getPath? idField).map fun id => (id, row.2)

theorem filter_identified (idField : String) (rows : List (Value × Record)) (id : Value) :
    (Items.identified idField (rows.map Prod.snd)).filter (fun entry => id.sameKey entry.1) =
      (rows.filter (Table.hasId idField id)).filterMap (withId? idField) := by
  induction rows with
  | nil => rfl
  | cons row rest ih =>
      rw [Items.identified] at ih ⊢
      rw [List.map_cons, List.filterMap_cons, List.filter_cons, Table.hasId]
      cases found : row.2.getPath? idField with
      | none => exact ih
      | some value =>
          cases same : id.sameKey value with
          | false => simpa [same] using ih
          | true => simpa [same, withId?, found] using ih

theorem map_snd_withId?
    {idField : String} {rows : List (Value × Record)}
    (identified : ∀ row ∈ rows, (row.2.getPath? idField).isSome) :
    (rows.filterMap (withId? idField)).map Prod.snd = rows.map Prod.snd := by
  induction rows with
  | nil => rfl
  | cons row rest ih =>
      rcases Option.isSome_iff_exists.mp (identified row List.mem_cons_self) with ⟨value, found⟩
      have own : withId? idField row = some (value, row.2) := by rw [withId?, found]; rfl
      rw [List.filterMap_cons_some own, List.map_cons, List.map_cons,
        ih fun other member => identified other (List.mem_cons_of_mem _ member)]

theorem of_mem_rowsFor
    {idField : String} {id : Value} {row : Value × Record}
    (member : row ∈ rowsFor idField table id) :
    row ∈ table.scan ∧
      ∃ value, row.2.getPath? idField = some value ∧ value.isNull = false ∧ id.sameKey value := by
  rcases List.mem_filter.mp member with ⟨scanned, found⟩
  rcases (Option.any_eq_true _ _).mp found with ⟨value, indexed, same⟩
  rcases Table.usable?_eq_some indexed with ⟨present, notNull⟩
  exact ⟨scanned, value, present, notNull, same⟩

theorem mem_rowsFor
    {idField : String} {id value : Value} {row : Value × Record} (scanned : row ∈ table.scan)
    (present : row.2.getPath? idField = some value) (notNull : value.isNull = false)
    (same : id.sameKey value) :
    row ∈ rowsFor idField table id := by
  refine List.mem_filter.mpr ⟨scanned, ?_⟩
  rw [Table.indexed?, present, Table.usable?, notNull]
  exact same

/-- The rows of an id are in the order of their keys, so that the last has the greatest. -/
theorem getLast_rowsFor
    (ascending : table.rows.Ascending) {idField : String} {id : Value}
    (some : rowsFor idField table id ≠ []) :
    ∀ row ∈ rowsFor idField table id,
      row.1.notAfter ((rowsFor idField table id).getLast some).1 := by
  have ordered : (rowsFor idField table id).Pairwise fun a b => a.1.notAfter b.1 := by
    apply (List.Pairwise.filter _ ascending).imp
    intro a b before
    change a.1.order b.1 = .lt at before
    rw [Value.notAfter, before]
    rfl
  intro row member
  rw [← List.dropLast_append_getLast some] at member ordered
  rcases List.mem_append.mp member with before | last
  · exact (List.pairwise_append.mp ordered).2.2 row before _ List.mem_cons_self
  · rw [List.mem_singleton.mp last]
    exact Value.notAfter_of_sameKey (Value.sameKey_refl _)

/-- Where ids are keys, the rows of an id are the row that the table has under it. -/
theorem rowsFor_key
    (ascending : table.rows.Ascending) (keyed : table.AllKeyed)
    (plain : table.hasKeyPath = false) (id : Value) :
    (rowsFor table.schema.primaryKey table id).map Prod.snd =
      if id.isNull then [] else (table.get? id).toList := by
  have sameKey {row : Value × Record}
      (member : row ∈ rowsFor table.schema.primaryKey table id) :
      row ∈ table.scan ∧ id.isNull = false ∧ id.sameKey row.1 := by
    rcases of_mem_rowsFor member with ⟨scanned, value, present, notNull, same⟩
    rcases (keyed row scanned).inRecord plain with ⟨stored, found, _, sameStored⟩
    rcases Option.some.inj (present.symm.trans found) with rfl
    exact ⟨scanned, Table.isNull_of_sameKey same notNull, Value.sameKey_trans same sameStored⟩
  have stored {row : Value × Record}
      (member : row ∈ rowsFor table.schema.primaryKey table id) :
      table.get? id = some row.2 := by
    rcases sameKey member with ⟨scanned, _, same⟩
    exact (OrderedMap.get?_congr ((Value.sameKey_iff _ _).mp same) table.rows).trans
      (ascending.get?_of_mem scanned)
  cases rows : rowsFor table.schema.primaryKey table id with
  | nil =>
      split
      · rfl
      · next notNull =>
          cases found : table.get? id with
          | none => rfl
          | some record =>
              rcases Table.row_of_get? found with ⟨row, scanned, rfl, same⟩
              rcases (keyed row scanned).inRecord plain with ⟨value, present, valueNotNull, sameValue⟩
              have member := mem_rowsFor scanned present valueNotNull
                (Value.sameKey_symm (Value.sameKey_trans sameValue same))
              rw [rows] at member
              contradiction
  | cons row rest =>
      have first : row ∈ rowsFor table.schema.primaryKey table id := by
        rw [rows]
        exact List.mem_cons_self
      have alone : rest = [] := by
        apply List.eq_nil_iff_forall_not_mem.mpr
        intro other later
        have member : other ∈ rowsFor table.schema.primaryKey table id := by
          rw [rows]
          exact List.mem_cons_of_mem _ later
        have strict : (rowsFor table.schema.primaryKey table id).Pairwise
            fun a b => compare a.1 b.1 = .lt := List.Pairwise.filter _ ascending
        rw [rows] at strict
        have before := List.rel_of_pairwise_cons strict later
        have same := Value.sameKey_trans (Value.sameKey_symm (sameKey first).2.2)
          (sameKey member).2.2
        rw [(Value.sameKey_iff _ _).mp same] at before
        contradiction
      rw [alone, (sameKey first).2.1, stored first]
      rfl

/-- Where the selected rows and their ids are in order already, none of them is moved. -/
theorem collect_of_fetch
    (named : cache.idField.isEmpty = false) (ascending : table.rows.Ascending) {name : String}
    {answer : QueryResult}
    (answered :
      (Work.runOn cache.descriptor.run ⟨table, .begin name cache.descriptor.mode⟩).1 =
        .ok answer)
    (rows : (cache.selected table).Pairwise fun a b => (Table.rowOrder cache.idField a b).isLE)
    (ids : (Items.identified cache.idField ((cache.selected table).map Prod.snd)).Pairwise
      fun a b => a.1.notAfter b.1) :
    Items.collect cache.idField (answer.records?.getD []) =
      ⟨Items.dropRepeated (Items.identified cache.idField
        ((cache.selected table).map Prod.snd))⟩ := by
  rcases answer_of_fetch named ascending answered
  rw [ordered_selection, Table.sortedBy_of_ordered rows]
  exact Items.collect_of_ordered ids

/-- A cache that holds what its fetch answered shows the table. -/
theorem shows_of_answer
    (named : cache.idField.isEmpty = false) (ascending : table.rows.Ascending)
    (keyed : table.AllKeyed) {name : String} {answer : QueryResult}
    (answered :
      (Work.runOn cache.descriptor.run ⟨table, .begin name cache.descriptor.mode⟩).1 =
        .ok answer)
    (held : cache.items = Items.collect cache.idField (answer.records?.getD [])) :
    cache.Shows table := by
  rcases answer_of_fetch named ascending answered
  change cache.items =
    Items.collect cache.idField ((cache.selection.ordered table).map Prod.snd) at held
  have hasIds (id : Value) :
      ∀ row ∈ rowsFor cache.idField table id, (row.2.getPath? cache.idField).isSome := by
    intro row member
    rcases of_mem_rowsFor member with ⟨_, value, present, _⟩
    rw [present]
    rfl
  -- The entries of an id are those of its rows, if it is tracked.
  have entries (id : Value) :
      (Items.identified cache.idField ((cache.selection.ordered table).map Prod.snd)).filter
          (fun entry => id.sameKey entry.1) =
        (if cache.tracked.contains id then rowsFor cache.idField table id else []).filterMap
          (withId? cache.idField) := by
    rw [filter_identified, filter_selection ascending]
  have present (id : Value) :
      (cache.items.find? id).isSome ↔
        cache.tracked.contains id ∧ rowsFor cache.idField table id ≠ [] := by
    rw [held, Items.find?_collect_isSome_iff, entries]
    cases cache.tracked.contains id with
    | false => simp
    | true =>
        rw [if_pos rfl, ← not_iff_not]
        simp only [ne_eq, not_not, true_and]
        rw [← List.map_eq_nil_iff (f := Prod.snd), map_snd_withId? (hasIds id),
          List.map_eq_nil_iff]
  have listed {id : Value} {record : Record} (found : cache.items.find? id = some record) :
      ∃ row ∈ rowsFor cache.idField table id, row.2 = record := by
    have tracked := ((present id).mp (by rw [found]; rfl)).1
    rw [held] at found
    rcases Items.of_find?_collect found with ⟨entry, member, rfl⟩
    rw [entries, if_pos tracked] at member
    rcases List.mem_filterMap.mp member with ⟨row, own, made⟩
    rcases Option.map_eq_some_iff.mp made with ⟨_, _, rfl⟩
    exact ⟨row, own, rfl⟩
  refine ⟨present, listed, ?_, ?_⟩
  · intro id tracked some oneForm
    refine ⟨(rowsFor cache.idField table id).getLast some, List.getLast_mem some, ?_,
      getLast_rowsFor ascending some⟩
    rw [held, Items.find?_collect_of_same, entries, if_pos tracked, ← List.getLast?_map,
      map_snd_withId? (hasIds id), List.getLast?_map, List.getLast?_eq_some_getLast some]
    · rfl
    · rw [entries, if_pos tracked]
      apply List.Pairwise.filterMap _ _ oneForm
      rintro a b together first madeFirst second madeSecond
      rcases Option.map_eq_some_iff.mp madeFirst with ⟨idA, foundA, rfl⟩
      rcases Option.map_eq_some_iff.mp madeSecond with ⟨idB, foundB, rfl⟩
      exact together idA idB foundA foundB
  · intro primary plain id
    have rows := rowsFor_key ascending keyed plain id
    rw [← primary] at rows
    cases found : cache.items.find? id with
    | none =>
        have absent := (present id).not.mp (by rw [found]; exact nofun)
        split
        · next tracked =>
            rcases Bool.and_eq_true_iff.mp tracked with ⟨tracked, notNull⟩
            have none : rowsFor cache.idField table id = [] := by
              by_contra some
              exact absent ⟨tracked, some⟩
            rw [none] at rows
            cases stored : table.get? id with
            | none => rfl
            | some record => simp_all
        · rfl
    | some record =>
        have tracked := ((present id).mp (by rw [found]; rfl)).1
        rcases listed found with ⟨row, member, rfl⟩
        have among := List.mem_map_of_mem (f := Prod.snd) member
        rw [rows] at among
        cases null : id.isNull with
        | true =>
            rw [if_pos null] at among
            contradiction
        | false =>
            rw [null, if_neg Bool.false_ne_true, Option.mem_toList] at among
            rw [tracked, Option.mem_def.mp among]
            rfl

end ItemCache

end LiveTable
