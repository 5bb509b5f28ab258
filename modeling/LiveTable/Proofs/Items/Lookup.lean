import LiveTable.Items.Lookup
import LiveTable.Proofs.Value.Sorting

/-!
# What a lookup by id finds

Collecting sorts the records by their ids without moving those of one key past each other,
and then drops every entry before an equal one.  So the entries of a key are what dropping
repetitions leaves of the records of that key, in the order of the list.

A lookup finds one of them if there is one, whatever its place in the tree; where the ids of
the key are all equal only the last is left to be found.
-/

set_option autoImplicit false

namespace LiveTable.Items

/-! ## Dropping repetitions -/

theorem mem_of_mem_dropRepeated {entries : List (Value × Record)} {entry : Value × Record}
    (member : entry ∈ dropRepeated entries) : entry ∈ entries := by
  fun_induction dropRepeated entries with
  | case1 first next rest equal ih => exact List.mem_cons_of_mem _ (ih member)
  | case2 first next rest different ih =>
      rcases List.mem_cons.mp member with rfl | later
      · exact List.mem_cons_self
      · exact List.mem_cons_of_mem _ (ih later)
  | case3 entries short => exact member

theorem dropRepeated_ne_nil {entries : List (Value × Record)} (some : entries ≠ []) :
    dropRepeated entries ≠ [] := by
  fun_induction dropRepeated entries with
  | case1 first next rest equal ih => exact ih (List.cons_ne_nil _ _)
  | case2 first next rest different ih => exact List.cons_ne_nil _ _
  | case3 entries short => exact some

/-- Of entries whose ids are all equal the last is left. -/
theorem dropRepeated_of_same
    {entries : List (Value × Record)} (same : entries.Pairwise fun a b => a.1.same b.1) :
    dropRepeated entries = entries.getLast?.toList := by
  fun_induction dropRepeated entries with
  | case1 first next rest equal ih =>
      rw [ih same.of_cons, List.getLast?_cons_cons]
  | case2 first next rest different ih =>
      have equal := List.rel_of_pairwise_cons same List.mem_cons_self
      contradiction
  | case3 entries short =>
      cases entries with
      | nil => rfl
      | cons first rest =>
          cases rest with
          | nil => rfl
          | cons next later => exact absurd rfl (short first next later)

/-- In a sorted list whatever comes after an entry of another key is of another key, too. -/
theorem filter_eq_nil_of_next
    {first next : Value × Record} {rest : List (Value × Record)} {id : Value}
    (ordered : (first :: next :: rest).Pairwise fun a b => a.1.notAfter b.1)
    (own : id.sameKey first.1) (following : id.sameKey next.1 = false) :
    (next :: rest).filter (fun entry => id.sameKey entry.1) = [] := by
  apply List.filter_eq_nil_iff.mpr
  intro entry member isOwn
  have after : first.1.notAfter next.1 := List.rel_of_pairwise_cons ordered List.mem_cons_self
  have before : next.1.notAfter first.1 := by
    have back : entry.1.notAfter first.1 :=
      Value.notAfter_of_sameKey (Value.sameKey_trans (Value.sameKey_symm isOwn) own)
    rcases List.mem_cons.mp member with rfl | later
    · exact back
    · exact Value.notAfter_trans _ _ _ (List.rel_of_pairwise_cons ordered.of_cons later) back
  have same := Value.sameKey_trans own (Value.sameKey_of_notAfter after before)
  rw [following] at same
  contradiction

/-- In a sorted list repetitions of one key can be dropped apart from those of other keys. -/
theorem filter_dropRepeated
    {entries : List (Value × Record)} (ordered : entries.Pairwise fun a b => a.1.notAfter b.1)
    (id : Value) :
    (dropRepeated entries).filter (fun entry => id.sameKey entry.1) =
      dropRepeated (entries.filter fun entry => id.sameKey entry.1) := by
  fun_induction dropRepeated entries with
  | case1 first next rest equal ih =>
      -- Equal ids are the same key, so both entries are kept by the filter or neither is.
      have sameKey : id.sameKey first.1 = id.sameKey next.1 := by
        rw [Value.sameKey, Value.sameKey, Value.order_congr_right (Value.sameKey_of_same equal)]
      rw [ih ordered.of_cons]
      cases own : id.sameKey next.1 with
      | false => rw [List.filter_cons_of_neg (a := first) (by simp [sameKey, own])]
      | true =>
          rw [List.filter_cons_of_pos (a := first) (by simp [sameKey, own]),
            List.filter_cons_of_pos (a := next) (by simp [own]), dropRepeated, if_pos equal]
  | case2 first next rest different ih =>
      cases own : id.sameKey first.1 with
      | false =>
          rw [List.filter_cons_of_neg (by simp [own]), List.filter_cons_of_neg (a := first)
            (by simp [own])]
          exact ih ordered.of_cons
      | true =>
          rw [List.filter_cons_of_pos (by simp [own]), List.filter_cons_of_pos (a := first)
            (by simp [own]), ih ordered.of_cons]
          cases following : id.sameKey next.1 with
          | true =>
              rw [List.filter_cons_of_pos (a := next) (by simp [following]), dropRepeated,
                if_neg different]
          | false =>
              rw [filter_eq_nil_of_next ordered own following]
              rfl
  | case3 entries short =>
      cases entries with
      | nil => rfl
      | cons first rest =>
          cases rest with
          | nil => cases own : id.sameKey first.1 <;> simp [own, dropRepeated]
          | cons next later => exact absurd rfl (short first next later)

/-- Records that come in the order of their ids are not moved. -/
theorem collect_of_ordered
    {idField : String} {records : List Record}
    (ordered : (identified idField records).Pairwise fun a b => a.1.notAfter b.1) :
    collect idField records = ⟨dropRepeated (identified idField records)⟩ := by
  rw [collect, List.mergeSort_of_pairwise ordered]

/-- The entries of one key in a collection. -/
theorem filter_collect (idField : String) (records : List Record) (id : Value) :
    (collect idField records).entries.filter (fun entry => id.sameKey entry.1) =
      dropRepeated ((identified idField records).filter fun entry => id.sameKey entry.1) := by
  rw [← filter_mergeSort_sameKey Prod.fst id (identified idField records)]
  exact filter_dropRepeated (mergeSort_keys_ordered Prod.fst _) id

/-! ## Looking up -/

theorem highest?_mem
    {size : Nat} {found : List ((Value × Record) × Nat)} {entry : Value × Record}
    (chosen : highest? size found = some entry) : entry ∈ found.map Prod.fst := by
  induction found with
  | nil => contradiction
  | cons first rest ih =>
      rw [highest?] at chosen
      split at chosen
      · rcases Option.some.inj chosen with rfl
        exact List.mem_cons_self
      · exact List.mem_cons_of_mem _ (ih chosen)

theorem highest?_isSome
    {size : Nat} {found : List ((Value × Record) × Nat)} (some : found ≠ []) :
    (highest? size found).isSome := by
  induction found with
  | nil => exact absurd rfl some
  | cons first rest ih =>
      rw [highest?]
      split
      · rfl
      · next later =>
          apply ih
          rintro rfl
          exact later rfl

theorem map_filter_zipIdx (entries : List (Value × Record)) (keep : Value × Record → Bool) :
    ((entries.zipIdx 1).filter fun entry => keep entry.1).map Prod.fst = entries.filter keep := by
  have positions : (entries.zipIdx 1).map Prod.fst = entries := List.zipIdx_map_fst 1 entries
  have mapped := List.filter_map (f := Prod.fst) (p := keep) (l := entries.zipIdx 1)
  rw [positions] at mapped
  exact mapped.symm

/-- What is found is the record of an entry of the key. -/
theorem of_find? {items : Items} {id : Value} {record : Record}
    (found : items.find? id = some record) :
    ∃ entry ∈ items.entries.filter (fun entry => id.sameKey entry.1), entry.2 = record := by
  rcases Option.map_eq_some_iff.mp found with ⟨entry, chosen, rfl⟩
  have member := highest?_mem chosen
  rw [map_filter_zipIdx items.entries fun entry => id.sameKey entry.1] at member
  exact ⟨entry, member, rfl⟩

/-- Something is found if there is an entry of the key. -/
theorem find?_isSome {items : Items} {id : Value}
    (some : items.entries.filter (fun entry => id.sameKey entry.1) ≠ []) :
    (items.find? id).isSome := by
  rw [find?, Option.isSome_map]
  apply highest?_isSome
  intro none
  rw [← map_filter_zipIdx items.entries fun entry => id.sameKey entry.1] at some
  exact some (List.map_eq_nil_iff.mpr none)

section Collected

variable {idField : String} {records : List Record} {id : Value}

/-- Among collected records one of a key is found if there is one. -/
theorem find?_collect_isSome_iff :
    ((collect idField records).find? id).isSome ↔
      (identified idField records).filter (fun entry => id.sameKey entry.1) ≠ [] := by
  constructor
  · intro found none
    rcases Option.isSome_iff_exists.mp found with ⟨record, found⟩
    rcases of_find? found with ⟨entry, member, _⟩
    rw [filter_collect, none] at member
    contradiction
  · intro some
    apply find?_isSome
    rw [filter_collect]
    exact dropRepeated_ne_nil some

theorem of_find?_collect {record : Record}
    (found : (collect idField records).find? id = some record) :
    ∃ entry ∈ (identified idField records).filter (fun entry => id.sameKey entry.1),
      entry.2 = record := by
  rcases of_find? found with ⟨entry, member, same⟩
  rw [filter_collect] at member
  exact ⟨entry, mem_of_mem_dropRepeated member, same⟩

/-- Where the ids of a key are all equal, the last of its records is found. -/
theorem find?_collect_of_same
    (same : ((identified idField records).filter fun entry => id.sameKey entry.1).Pairwise
      fun a b => a.1.same b.1) :
    (collect idField records).find? id =
      ((identified idField records).filter fun entry => id.sameKey entry.1).getLast?.map
        Prod.snd := by
  have only := (filter_collect idField records id).trans (dropRepeated_of_same same)
  cases found : (collect idField records).find? id with
  | none =>
      have none :
          ¬ (identified idField records).filter (fun entry => id.sameKey entry.1) ≠ [] := by
        rw [← find?_collect_isSome_iff, found]
        exact nofun
      rw [Classical.not_not.mp none]
      rfl
  | some record =>
      rcases of_find? found with ⟨entry, member, rfl⟩
      rw [only, Option.mem_toList] at member
      rw [Option.mem_def.mp member]
      rfl

end Collected

end LiveTable.Items
