import LiveTable.Proofs.Items.Lookup
import LiveTable.Proofs.Value.Forms

/-!
# Records by key and by name

Collected by id, records share an entry if their ids are one key, and are equal; collected by
the names of their ids, they share an entry if their names are.  Of those that share an entry
the last stays, in either collection.

Ids of one key have one name as long as they are plain, and then there are no more names than
there are ids.
-/

set_option autoImplicit false

namespace LiveTable.Items

variable {idField : String} {records : List Record}

/-! ## Entries by key -/

theorem mem_of_mem_collect {entry : Value × Record}
    (member : entry ∈ (collect idField records).entries) : entry ∈ identified idField records :=
  List.mem_mergeSort.mp (mem_of_mem_dropRepeated member)

/-- The key of an id that is given is the key of an id that is kept. -/
theorem exists_mem_collect {entry : Value × Record}
    (given : entry ∈ identified idField records) :
    ∃ kept ∈ (collect idField records).entries, entry.1.sameKey kept.1 := by
  have own : (identified idField records).filter (fun other => entry.1.sameKey other.1) ≠ [] :=
    List.ne_nil_of_mem (List.mem_filter.mpr ⟨given, Value.sameKey_refl entry.1⟩)
  have some := dropRepeated_ne_nil own
  rw [← filter_collect] at some
  rcases List.exists_mem_of_ne_nil _ some with ⟨kept, member⟩
  exact ⟨kept, List.mem_filter.mp member⟩

/-- Where the ids of a key are all equal, one entry is kept, of the last of the records. -/
theorem filter_collect_of_same {id : Value}
    (same : ((identified idField records).filter fun entry => id.sameKey entry.1).Pairwise
      fun a b => a.1.same b.1) :
    (collect idField records).entries.filter (fun entry => id.sameKey entry.1) =
      ((identified idField records).filter fun entry => id.sameKey entry.1).getLast?.toList := by
  rw [filter_collect, dropRepeated_of_same same]

theorem filter_ids (idField : String) (records : List Record) (id : Value) :
    (ids idField records).filter id.sameKey =
      ((collect idField records).entries.filter fun entry => id.sameKey entry.1).map Prod.fst :=
  List.filter_map

/-! ## Entries by name -/

/-- Of the records of one name the last stays. -/
theorem get?_named (idField : String) (records : List Record) (name : String) :
    (named idField records).get? name =
      ((identified idField records).filter fun entry => nameOf entry.1 = name).getLast?.map
        Prod.snd := by
  have names (entry : Value × Record) :
      decide (compare name (nameOf entry.1) = .eq) = decide (nameOf entry.1 = name) := by
    rw [decide_eq_decide, Std.compare_eq_iff_eq]
    exact eq_comm
  rw [named, OrderedMap.get?_ofList, List.filter_map, List.getLast?_map, Option.map_map]
  simp only [Function.comp_def, names]

theorem nameOf_of_sameKey {a b : Value} (same : a.sameKey b)
    (plain : a = b ∨ a.isPlain ∧ b.isPlain) : nameOf a = nameOf b := by
  rcases plain with rfl | ⟨first, second⟩
  · rfl
  have text : a.toText = b.toText :=
    congrArg String.ofList (Value.display_of_order a b (Value.order_of_sameKey same) first second)
  have strings := Value.asString?_congr same
  cases a <;> cases b <;> simp_all [nameOf, Value.asString?]

/-- Ids of one key are one value, or plain. -/
def PlainForms (given : List (Value × Record)) : Prop :=
  ∀ first ∈ given, ∀ second ∈ given, first.1.sameKey second.1 →
    first.1 = second.1 ∨ first.1.isPlain ∧ second.1.isPlain

/-- Every name is the name of an id that is kept. -/
theorem keys_named_subset (plain : PlainForms (identified idField records)) :
    (named idField records).keys ⊆ (ids idField records).map nameOf := by
  intro name member
  rw [OrderedMap.mem_keys_iff, get?_named, Option.isSome_map] at member
  rcases Option.isSome_iff_exists.mp member with ⟨entry, last⟩
  rcases List.mem_filter.mp (List.mem_of_getLast? last) with ⟨given, own⟩
  rcases exists_mem_collect given with ⟨kept, found, same⟩
  have forms := plain entry given kept (mem_of_mem_collect found) same
  rw [ids, OrderedMap.keys, List.map_map]
  refine List.mem_map.mpr ⟨kept, found, ?_⟩
  exact (nameOf_of_sameKey same forms).symm.trans (of_decide_eq_true own)

/-- There are no more names than ids. -/
theorem size_named_le (plain : PlainForms (identified idField records)) :
    (named idField records).size ≤ (collect idField records).size := by
  have distinct : (named idField records).keys.Nodup :=
    (OrderedMap.ofList_ascending _).keys_nodup
  have fewer := distinct.length_le_of_subset (keys_named_subset plain)
  simpa [ids, OrderedMap.keys, OrderedMap.size] using fewer

/--
Records by name and records by key agree on which records share an entry.  Records whose ids are
one key share an entry by name as long as these ids are one value, or plain, and then there are no
more names than ids.  By name the last of the records of a name is kept, and by key the last of
the records of a key whose ids are all equal.
-/
theorem records_share_entries (idField : String) (records : List Record) :
    let given := identified idField records
    let ofKey (id : Value) := given.filter fun entry => id.sameKey entry.1
    (∀ name, (named idField records).get? name =
      (given.filter fun entry => nameOf entry.1 = name).getLast?.map Prod.snd) ∧
    (∀ id, (ofKey id).Pairwise (fun first second => first.1.same second.1) →
      (collect idField records).entries.filter (fun entry => id.sameKey entry.1) =
          (ofKey id).getLast?.toList ∧
        (ids idField records).filter id.sameKey = (ofKey id).getLast?.toList.map Prod.fst) ∧
    (PlainForms given →
      (∀ first ∈ given, ∀ second ∈ given, first.1.sameKey second.1 →
          nameOf first.1 = nameOf second.1) ∧
        (named idField records).size ≤ (collect idField records).size ∧
        (named idField records).size ≤ (ids idField records).length) := by
  intro given ofKey
  refine ⟨get?_named idField records, fun id same => ?_, fun plain => ⟨?_, ?_, ?_⟩⟩
  · rw [filter_ids, filter_collect_of_same same]
    exact ⟨rfl, rfl⟩
  · intro first member second other same
    exact nameOf_of_sameKey same (plain first member second other same)
  · exact size_named_le plain
  · rw [ids, OrderedMap.keys, List.length_map]
    exact size_named_le plain

/-- The integer 2 and the same number in floating point share a name, and two equal ids a key. -/
theorem equal_ids_share_entries :
    let row (id : Value) (a : Int64) := Record.ofList [("id", id), ("a", .integer a)]
    let a (record : Record) := (record.get? "a").bind Value.asInteger?
    let half : Value := .float ⟨0x3fe0000000000000⟩
    let records := [row (.integer 2) 1, row (.float (.ofInt 2)) 2, row half 3, row half 4]
    ((named "id" records).get? "2").bind a = some 2 ∧
      ((collect "id" records).entries.filter fun entry => half.sameKey entry.1).map
        (fun entry => a entry.2) = [some 4] ∧
      PlainForms (identified "id" records) ∧
      (named "id" records).size ≤ (collect "id" records).size := by
  intro row a half records
  rcases records_share_entries "id" records with ⟨byName, byKey, plainForms⟩
  have equal : ((identified "id" records).filter fun entry => half.sameKey entry.1).Pairwise
      fun first second => first.1.same second.1 := by decide +kernel
  have plain : PlainForms (identified "id" records) := by
    have all : ∀ entry ∈ identified "id" records, entry.1.isPlain := by decide +kernel
    exact fun first member second other _ => .inr ⟨all first member, all second other⟩
  refine ⟨?_, ?_, plain, (plainForms plain).2.1⟩
  · rw [byName]
    decide +kernel
  · rw [(byKey half equal).1]
    decide +kernel

/--
Records of one key do not always share an entry.  The two zeros share one by key and not by name;
the integer 2^62 and the same number in floating point have two names; the integer 1 and the same
number in floating point share an entry by name and not by key.
-/
theorem equal_ids_have_entries_apart :
    let row (id : Value) := Record.ofList [("id", id)]
    let zeros := [row (.float (.zero false)), row (.float (.zero true))]
    let large : List Value := [.integer 4611686018427387904, .float (.ofInt 4611686018427387904)]
    let ones := [row (.integer 1), row (.float (.ofInt 1))]
    ((Value.float (.zero false)).sameKey (.float (.zero true)) ∧
        (collect "id" zeros).size = 1 ∧ (named "id" zeros).size = 2) ∧
      (large.Pairwise (fun a b => a.sameKey b) ∧ (named "id" (large.map row)).size = 2) ∧
      (Value.integer 1).sameKey (.float (.ofInt 1)) ∧
        (collect "id" ones).size = 2 ∧ (named "id" ones).size = 1 := by
  intro row zeros large ones
  have zerosOrdered : (identified "id" zeros).Pairwise fun a b => a.1.notAfter b.1 := by
    decide +kernel
  have onesOrdered : (identified "id" ones).Pairwise fun a b => a.1.notAfter b.1 := by
    decide +kernel
  rw [collect_of_ordered zerosOrdered, collect_of_ordered onesOrdered]
  decide +kernel

end LiveTable.Items
