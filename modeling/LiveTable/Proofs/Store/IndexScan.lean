import LiveTable.Proofs.Store.Keys
import LiveTable.Proofs.Store.Paging

/-!
# Rows in the order of an index

The index of a field has the rows whose value of the field is there and not null, in the order
of these values and then of the keys.  The index of the primary key is read off the table
itself: neither are rows without a value left out, nor are rows sorted.

That makes no difference unless the name of the primary key is a path.  Every row stands under
a key that its primary key field holds in some form, whatever was written, deleted and rolled
back, so every row has a value, and the values are in the order of the keys.
-/

set_option autoImplicit false

namespace LiveTable

namespace Table

variable {table : Table} {field : String}

/-- The rows in the order of an index, whether or not it is that of the primary key. -/
def indexScan (table : Table) (field : String) : List (Value × Record) :=
  sortedBy field (table.scan.filter fun row => (indexed? row.2 field).isSome)

theorem isSome_indexed?_iff (record : Record) :
    (indexed? record field).isSome ↔
      ∃ value, record.getPath? field = some value ∧ value.isNull = false := by
  rw [indexed?]
  constructor
  · intro present
    rcases Option.isSome_iff_exists.mp present with ⟨value, usable⟩
    exact ⟨value, usable?_eq_some usable⟩
  · rintro ⟨value, found, notNull⟩
    rw [found, usable?, notNull]
    rfl

theorem mem_indexScan_iff {row : Value × Record} :
    row ∈ table.indexScan field ↔
      row ∈ table.scan ∧
        ∃ value, row.2.getPath? field = some value ∧ value.isNull = false := by
  rw [indexScan, (Collection.sortedBy_perm field _).mem_iff, List.mem_filter, isSome_indexed?_iff]

/-- An index has no two rows of one key. -/
theorem indexScan_apart (ascending : table.rows.Ascending) :
    (table.indexScan field).Pairwise fun a b => a.1.sameKey b.1 = false := by
  have scanned := (Collection.apart_of_ascending ascending).filter
    fun row => (indexed? row.2 field).isSome
  refine ((Collection.sortedBy_perm field _).pairwise_iff ?_).mpr scanned
  intro a b different
  rwa [Value.sameKey_comm]

theorem indexScan_precedes (ascending : table.rows.Ascending) :
    (table.indexScan field).Pairwise (Precedes (some field)) :=
  Collection.precedes_of_rowOrder (sortedBy_ordered field _) (indexScan_apart ascending)

/-- Rows whose values of a field are the keys that they stand under are in the order of these. -/
theorem rowOrder_of_keyed {a b : Value × Record} {valueA valueB : Value}
    (foundA : a.2.getPath? field = some valueA) (foundB : b.2.getPath? field = some valueB)
    (keyA : valueA.sameKey a.1) (keyB : valueB.sameKey b.1) (before : a.1.order b.1 = .lt) :
    rowOrder field a b = .lt := by
  have values : valueA.order valueB = .lt := by
    rw [Value.order_congr_left keyA, Value.order_congr_right keyB, before]
  simp only [rowOrder, foundA, foundB, values]
  rfl

/-- Where every row stands under a key that its record has, the table is the primary index. -/
theorem AllKeyed.indexScan_primaryKey (keyed : table.AllKeyed) (plain : table.hasKeyPath = false)
    (ascending : table.rows.Ascending) :
    table.indexScan table.schema.primaryKey = table.scan := by
  have all : table.scan.filter (fun row => (indexed? row.2 table.schema.primaryKey).isSome) =
      table.scan := by
    refine List.filter_eq_self.mpr fun row member => (isSome_indexed?_iff row.2).mpr ?_
    rcases (keyed row member).inRecord plain with ⟨value, found, notNull, _⟩
    exact ⟨value, found, notNull⟩
  rw [indexScan, all]
  refine sortedBy_of_ordered (List.Pairwise.imp_of_mem ?_ ascending)
  intro a b memberA memberB before
  rcases (keyed a memberA).inRecord plain with ⟨valueA, foundA, _, keyA⟩
  rcases (keyed b memberB).inRecord plain with ⟨valueB, foundB, _, keyB⟩
  rw [rowOrder_of_keyed foundA foundB keyA keyB before]
  rfl

/-- Unless the name of the primary key is a path, every index is scanned by one rule. -/
theorem AllKeyed.scanBy_eq (keyed : table.AllKeyed) (ascending : table.rows.Ascending)
    (plain : field = table.schema.primaryKey → table.hasKeyPath = false) :
    table.scanBy field = table.indexScan field := by
  rw [scanBy]
  split
  · next primary =>
      subst primary
      exact (keyed.indexScan_primaryKey (plain rfl) ascending).symm
  · rfl

end Table

namespace Desk

/--
After any history on declared tables, the scan of an index has just the rows whose value of the
field is there and not null, no two of them under one key, in the order of these values and then
of the keys.  This holds of every field, be it a path or not, but for a primary key that is a
path: for any other primary key all rows of the table, in the order of their keys, are what the
rule for indexes gives.
-/
theorem scans_follow_index {schemas : List TableSchema} {tables : Tables}
    (declared : Store.createTables schemas = .ok tables) (events : List TableEvent)
    {name : String} {table : Table}
    (held : ((ofTables tables).run events).tables.get? name = some table) (field : String)
    (plain : field = table.schema.primaryKey → table.hasKeyPath = false) :
    (∀ row, row ∈ table.scanBy field ↔
        row ∈ table.scan ∧ ∃ value, row.2.getPath? field = some value ∧ value.isNull = false) ∧
      (table.scanBy field).Pairwise (fun first second => first.1.sameKey second.1 = false) ∧
      (table.scanBy field).Pairwise (Table.Precedes (some field)) ∧
      (field = table.schema.primaryKey →
        table.scanBy field = table.scan ∧ table.scan = table.indexScan field) := by
  have kept := kept_keyed declared events name
  have ascending := kept.wellFormed.rows held
  have byRule := (kept.good table held).scanBy_eq ascending plain
  refine ⟨?_, ?_, ?_, fun primary => ?_⟩
  · intro row
    rw [byRule, Table.mem_indexScan_iff]
  · exact byRule ▸ Table.indexScan_apart ascending
  · exact byRule ▸ Table.indexScan_precedes ascending
  · have whole : table.scanBy field = table.scan := if_pos primary
    exact ⟨whole, whole.symm.trans byRule⟩

/--
A row comes back under another form of the key than its record has, and is scanned by its key as
before; two values at a path are equal in different forms, one is null and one is not there.
-/
theorem scans_follow_index_after_rollback :
    let schema : TableSchema := ⟨"t", "id", true, []⟩
    let living (id city : Value) : Record := .ofList [("id", id), ("home", .object [("city", city)])]
    let events : List TableEvent :=
      [.put "t" (living (.integer 2) (.integer 9)) none,
        .put "t" (living (.float (.ofInt 1)) .null) none,
        .put "t" (living (.integer 3) (.float (.ofInt 9))) none,
        .put "t" (living (.integer 4) (.integer 5)) none, .put "t" .empty none,
        .begin "t" .readWrite, .write 0 (.delete "t" (.float (.ofInt 2))), .rollback 0]
    let desk := (ofTables (.ofList [("t", .ofSchema schema)])).run events
    ∃ table, desk.tables.get? "t" = some table ∧
      table.scan.map (·.1.asInteger?) = [none, none, some 3, some 4, some 5] ∧
      table.scan = table.indexScan "id" ∧
      (table.scanBy "home.city").Pairwise (Table.Precedes (some "home.city")) := by
  intro schema living events desk
  have declared : Store.createTables [schema] = .ok (.ofList [("t", .ofSchema schema)]) := rfl
  have found :
      (desk.tables.get? "t").any fun table =>
        table.schema.primaryKey == "id" && !table.hasKeyPath &&
          table.scan.map (·.1.asInteger?) == [none, none, some 3, some 4, some 5] := by
    subst desk events living schema
    decide +kernel
  rcases (Option.any_eq_true _ _).mp found with ⟨table, held, shape⟩
  simp only [Bool.and_eq_true, beq_iff_eq, Bool.not_eq_true'] at shape
  rcases shape with ⟨⟨primary, plain⟩, keys⟩
  have byKey := scans_follow_index declared events held "id" fun _ => plain
  have byCity := scans_follow_index declared events held "home.city" fun _ => plain
  exact ⟨table, held, keys, (byKey.2.2.2 primary.symm).2, byCity.2.2.1⟩

end Desk

end LiveTable
