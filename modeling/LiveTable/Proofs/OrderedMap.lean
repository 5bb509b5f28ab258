import LiveTable.OrderedMap

/-!
# Laws of finite maps in key order

Looking up after storing, removing or changing follows the laws of finite maps for
every transitive comparison of keys, where keys that compare equal are one key.
These laws ask nothing of the list of entries.

`Ascending` is the order that every operation keeps.  Ascending maps are determined
by their entries, look every entry up under its own key, and have equally many
entries as soon as they look the same contents up.
-/

set_option autoImplicit false

namespace LiveTable.OrderedMap

variable {Key Content : Type} [Ord Key]

/-- One entry comes strictly before another. -/
def Before (first second : Key × Content) : Prop :=
  compare first.1 second.1 = .lt

/-- The entries are in strictly ascending order of their keys. -/
def Ascending (map : OrderedMap Key Content) : Prop :=
  map.entries.Pairwise Before

instance (first second : Key × Content) : Decidable (Before first second) :=
  inferInstanceAs (Decidable (compare first.1 second.1 = .lt))

instance (map : OrderedMap Key Content) : Decidable map.Ascending :=
  inferInstanceAs (Decidable (map.entries.Pairwise Before))

theorem empty_ascending : (empty : OrderedMap Key Content).Ascending :=
  List.Pairwise.nil

/-! ## Looking up -/

theorem contains_eq_isSome (map : OrderedMap Key Content) (key : Key) :
    map.contains key = (map.get? key).isSome := by
  rw [contains, get?, Option.isSome_map]

theorem findIn_some
    {key : Key} {entries : List (Key × Content)} {entry : Key × Content}
    (found : findIn key entries = some entry) :
    entry ∈ entries ∧ compare key entry.1 = .eq := by
  induction entries with
  | nil => simp [findIn] at found
  | cons head rest ih =>
      rw [findIn] at found
      split at found
      · next equal =>
          rcases Option.some.inj found with rfl
          exact ⟨List.mem_cons_self, equal⟩
      · rcases ih found with ⟨member, equal⟩
        exact ⟨List.mem_cons_of_mem head member, equal⟩

theorem findIn_none_iff
    {key : Key} {entries : List (Key × Content)} :
    findIn key entries = none ↔ ∀ entry ∈ entries, compare key entry.1 ≠ .eq := by
  induction entries with
  | nil => simp [findIn]
  | cons head rest ih =>
      rw [findIn]
      by_cases equal : compare key head.1 = .eq
      · simp [equal]
      · simp [equal, ih]

theorem findIn_filter
    (keep : Key × Content → Bool) (sought : Key) (entries : List (Key × Content))
    (kept : ∀ entry ∈ entries, compare sought entry.1 = .eq → keep entry = true) :
    findIn sought (entries.filter keep) = findIn sought entries := by
  induction entries with
  | nil => rfl
  | cons head rest ih =>
      have restKept := ih fun entry member => kept entry (List.mem_cons_of_mem head member)
      rw [List.filter_cons]
      by_cases here : compare sought head.1 = .eq
      · rw [if_pos (kept head List.mem_cons_self here), findIn, findIn, if_pos here, if_pos here]
      · split
        · rw [findIn, findIn, if_neg here, if_neg here, restKept]
        · rw [restKept, findIn, if_neg here]

/-- Storing adds no key but the one that is stored under. -/
theorem key_of_mem_insertIn
    {key : Key} {content : Content} {entries : List (Key × Content)}
    {entry : Key × Content} (member : entry ∈ insertIn key content entries) :
    entry.1 = key ∨ ∃ stored ∈ entries, stored.1 = entry.1 := by
  induction entries with
  | nil =>
      rcases List.mem_singleton.mp member with rfl
      exact Or.inl rfl
  | cons head rest ih =>
      rw [insertIn] at member
      split at member
      · rcases List.mem_cons.mp member with rfl | old
        · exact Or.inl rfl
        · exact Or.inr ⟨entry, old, rfl⟩
      · rcases List.mem_cons.mp member with rfl | old
        · exact Or.inr ⟨head, List.mem_cons_self, rfl⟩
        · exact Or.inr ⟨entry, List.mem_cons_of_mem head old, rfl⟩
      · rcases List.mem_cons.mp member with rfl | inner
        · exact Or.inr ⟨entry, List.mem_cons_self, rfl⟩
        · rcases ih inner with new | ⟨stored, old, same⟩
          · exact Or.inl new
          · exact Or.inr ⟨stored, List.mem_cons_of_mem head old, same⟩

theorem Ascending.filter
    {map : OrderedMap Key Content} (ascending : map.Ascending)
    (keep : Key → Content → Bool) :
    (map.filter keep).Ascending :=
  List.Pairwise.filter _ ascending

theorem Ascending.erase
    {map : OrderedMap Key Content} (ascending : map.Ascending) (key : Key) :
    (map.erase key).Ascending :=
  ascending.filter _

theorem Ascending.modify
    {map : OrderedMap Key Content} (ascending : map.Ascending)
    (key : Key) (change : Content → Content) :
    (map.modify key change).Ascending := by
  refine List.Pairwise.map _ ?_ ascending
  intro first second before
  rw [Before]
  split <;> split <;> exact before

/-- Of two changes of one key both take effect, the first one first. -/
theorem modify_modify
    (map : OrderedMap Key Content) (key : Key) (first second : Content → Content) :
    (map.modify key first).modify key second = map.modify key fun content =>
      second (first content) := by
  rw [modify, modify, modify, List.map_map]
  congr 1
  apply List.map_congr_left
  intro entry _
  by_cases same : compare key entry.1 = .eq <;> simp [same]

/-- Changing what is stored leaves the keys as they are stored. -/
theorem keys_modify (map : OrderedMap Key Content) (key : Key) (change : Content → Content) :
    (map.modify key change).keys = map.keys := by
  rw [keys, keys, modify, List.map_map]
  apply List.map_congr_left
  intro entry _
  simp only [Function.comp_apply]
  split <;> rfl

section Keys

variable [Std.LawfulEqOrd Key]

theorem mem_keys_iff (map : OrderedMap Key Content) (key : Key) :
    key ∈ map.keys ↔ (map.get? key).isSome := by
  rw [keys, List.mem_map, get?, findEntry?, Option.isSome_map]
  constructor
  · rintro ⟨entry, member, rfl⟩
    cases found : findIn entry.1 map.entries with
    | some stored => rfl
    | none => exact absurd Std.ReflOrd.compare_self (findIn_none_iff.mp found entry member)
  · intro found
    rcases Option.isSome_iff_exists.mp found with ⟨entry, here⟩
    rcases findIn_some here with ⟨member, same⟩
    exact ⟨entry, member, (Std.LawfulEqOrd.eq_of_compare same).symm⟩

theorem Ascending.keys_nodup {map : OrderedMap Key Content} (ascending : map.Ascending) :
    map.keys.Nodup := by
  rw [keys, List.Nodup, List.pairwise_map]
  refine ascending.imp ?_
  intro first second before same
  rw [Before, same, Std.ReflOrd.compare_self] at before
  contradiction

end Keys

variable [Std.TransOrd Key]

/-- Keys that compare equal look the same entry up. -/
theorem findIn_congr
    {first second : Key} (same : compare first second = .eq)
    (entries : List (Key × Content)) :
    findIn first entries = findIn second entries := by
  induction entries with
  | nil => rfl
  | cons head rest ih =>
      rw [findIn, findIn, Std.TransCmp.congr_left same, ih]

theorem get?_congr
    {first second : Key} (same : compare first second = .eq)
    (map : OrderedMap Key Content) :
    map.get? first = map.get? second := by
  rw [get?, get?, findEntry?, findEntry?, findIn_congr same]

theorem findIn_insertIn
    (key sought : Key) (content : Content) (entries : List (Key × Content)) :
    (findIn sought (insertIn key content entries)).map Prod.snd =
      if compare sought key = .eq then some content
      else (findIn sought entries).map Prod.snd := by
  induction entries with
  | nil =>
      by_cases same : compare sought key = .eq <;> simp [insertIn, findIn, same]
  | cons head rest ih =>
      rw [insertIn]
      split
      · by_cases same : compare sought key = .eq <;> simp [findIn, same]
      · next equal =>
          have alike : compare sought key = .eq ↔ compare sought head.1 = .eq := by
            rw [Std.TransCmp.congr_right equal]
          by_cases same : compare sought key = .eq
          · simp [findIn, same, alike.mp same]
          · simp [findIn, same, mt alike.mpr same]
      · next above =>
          rw [findIn]
          by_cases same : compare sought key = .eq
          · have passed : compare sought head.1 = .gt := by
              rw [Std.TransCmp.congr_left same, above]
            simpa [passed, same] using ih
          · by_cases here : compare sought head.1 = .eq
            · simp [findIn, here, same]
            · simpa [findIn, here, same] using ih

/-- Storing under a key is seen under every key that compares equal, and under no other. -/
theorem get?_insert
    (map : OrderedMap Key Content) (key sought : Key) (content : Content) :
    (map.insert key content).get? sought =
      if compare sought key = .eq then some content else map.get? sought :=
  findIn_insertIn key sought content map.entries

@[simp]
theorem get?_insert_self
    (map : OrderedMap Key Content) (key : Key) (content : Content) :
    (map.insert key content).get? key = some content := by
  rw [get?_insert, if_pos Std.ReflOrd.compare_self]

/-- Removing a key removes every key that compares equal, and no other. -/
theorem get?_erase (map : OrderedMap Key Content) (key sought : Key) :
    (map.erase key).get? sought =
      if compare sought key = .eq then none else map.get? sought := by
  rw [get?, get?, findEntry?, findEntry?, erase, filter]
  by_cases same : compare sought key = .eq
  · rw [if_pos same, findIn_congr same]
    rw [Option.map_eq_none_iff, findIn_none_iff]
    intro entry member
    simpa using (List.mem_filter.mp member).2
  · rw [if_neg same, findIn_filter]
    intro entry _ here
    have apart : compare key entry.1 ≠ .eq := by
      intro equal
      exact same (Std.TransCmp.eq_trans here (Std.OrientedCmp.eq_symm equal))
    simpa using apart

theorem get?_modify
    (map : OrderedMap Key Content) (key sought : Key) (change : Content → Content) :
    (map.modify key change).get? sought =
      if compare sought key = .eq then (map.get? sought).map change
      else map.get? sought := by
  rw [get?, get?, findEntry?, findEntry?, modify]
  induction map.entries with
  | nil => simp [findIn]
  | cons head rest ih =>
      rw [List.map_cons, findIn, findIn]
      by_cases here : compare sought head.1 = .eq
      · have alike : compare key head.1 = .eq ↔ compare sought key = .eq := by
          rw [← Std.TransCmp.congr_right here, Std.OrientedCmp.eq_comm]
        by_cases same : compare sought key = .eq
        · simp [here, same, alike.mpr same]
        · simp [here, same, mt alike.mp same]
      · have passed :
            compare sought
              (if compare key head.1 = .eq then (head.1, change head.2) else head).1 ≠ .eq := by
          split <;> exact here
        rw [if_neg passed, if_neg here]
        exact ih

/-! ## Ascending maps -/

theorem insertIn_pairwise
    {entries : List (Key × Content)} (ascending : entries.Pairwise Before)
    (key : Key) (content : Content) :
    (insertIn key content entries).Pairwise Before := by
  induction entries with
  | nil => exact List.pairwise_singleton _ _
  | cons head rest ih =>
      rcases List.pairwise_cons.mp ascending with ⟨first, others⟩
      rw [insertIn]
      split
      · next below =>
          refine List.pairwise_cons.mpr ⟨?_, ascending⟩
          intro entry member
          rcases List.mem_cons.mp member with rfl | later
          · exact below
          · exact Std.TransCmp.lt_trans below (first entry later)
      · exact List.pairwise_cons.mpr ⟨fun entry member => first entry member, others⟩
      · next above =>
          refine List.pairwise_cons.mpr ⟨?_, ih others⟩
          intro entry member
          rcases key_of_mem_insertIn member with new | ⟨stored, old, same⟩
          · rw [Before, new]
            exact Std.OrientedCmp.lt_of_gt above
          · rw [Before, ← same]
            exact first stored old

theorem Ascending.insert
    {map : OrderedMap Key Content} (ascending : map.Ascending)
    (key : Key) (content : Content) :
    (map.insert key content).Ascending :=
  insertIn_pairwise ascending key content

/-- In an ascending list every entry is found under its own key. -/
theorem findIn_of_mem
    {entries : List (Key × Content)} (ascending : entries.Pairwise Before)
    {key : Key} {entry : Key × Content}
    (member : entry ∈ entries) (same : compare key entry.1 = .eq) :
    findIn key entries = some entry := by
  induction entries with
  | nil => simp at member
  | cons head rest ih =>
      rcases List.pairwise_cons.mp ascending with ⟨first, others⟩
      rw [findIn]
      rcases List.mem_cons.mp member with rfl | later
      · rw [if_pos same]
      · have before : compare head.1 entry.1 = .lt := first entry later
        rw [if_neg, ih others later]
        intro here
        rw [Std.TransCmp.congr_left (Std.OrientedCmp.eq_symm here), same] at before
        exact Ordering.noConfusion before

theorem Ascending.get?_of_mem
    {map : OrderedMap Key Content} (ascending : map.Ascending)
    {entry : Key × Content} (member : entry ∈ map.entries) :
    map.get? entry.1 = some entry.2 := by
  rw [get?, findEntry?, findIn_of_mem ascending member Std.ReflOrd.compare_self]
  rfl

/-- Entries of an ascending map whose keys compare equal are one entry. -/
theorem Ascending.eq_of_compare
    {map : OrderedMap Key Content} (ascending : map.Ascending)
    {first second : Key × Content}
    (firstMember : first ∈ map.entries) (secondMember : second ∈ map.entries)
    (same : compare first.1 second.1 = .eq) :
    first = second := by
  have found := findIn_of_mem ascending firstMember Std.ReflOrd.compare_self
  rw [findIn_of_mem ascending secondMember same] at found
  exact (Option.some.inj found).symm

/-- Replacing a content by itself changes nothing. -/
theorem Ascending.modify_self
    {map : OrderedMap Key Content} (ascending : map.Ascending)
    {key : Key} {content : Content} (held : map.get? key = some content) :
    (map.modify key fun _ => content) = map := by
  rw [get?, findEntry?, Option.map_eq_some_iff] at held
  rcases held with ⟨stored, found, rfl⟩
  have unchanged :
      ∀ entry ∈ map.entries,
        (if compare key entry.1 = .eq then (entry.1, stored.2) else entry) = entry := by
    intro entry member
    split
    · next same =>
        rw [findIn_of_mem ascending member same] at found
        rw [Option.some.inj found]
    · rfl
  rw [OrderedMap.modify, List.map_congr_left unchanged, List.map_id']

/-- No key of an ascending list is found behind its first entry. -/
theorem findIn_tail
    {head : Key × Content} {rest : List (Key × Content)}
    (ascending : (head :: rest).Pairwise Before)
    {key : Key} (notAfter : compare key head.1 ≠ .gt) :
    findIn key rest = none := by
  rw [findIn_none_iff]
  intro entry member same
  have before : compare head.1 entry.1 = .lt := (List.pairwise_cons.mp ascending).1 entry member
  rw [Std.TransCmp.congr_right (Std.OrientedCmp.eq_symm same)] at before
  exact notAfter (Std.OrientedCmp.gt_of_lt before)

/-- Storing under a key that is there changes what is stored under it, and nothing else. -/
theorem Ascending.insert_eq_modify
    {map : OrderedMap Key Content} (ascending : map.Ascending)
    {key : Key} (held : (map.get? key).isSome) (content : Content) :
    map.insert key content = map.modify key fun _ => content := by
  rcases map with ⟨entries⟩
  rw [get?, findEntry?, Option.isSome_map] at held
  have sorted : entries.Pairwise Before := ascending
  clear ascending
  rw [OrderedMap.insert, OrderedMap.modify]
  congr 1
  induction entries with
  | nil => contradiction
  | cons head rest ih =>
      rw [insertIn, List.map_cons]
      cases order : compare key head.1 with
      | lt =>
          have missing : findIn key (head :: rest) = none := by
            rw [findIn, if_neg (by simp [order]), findIn_tail sorted (by simp [order])]
          rw [missing] at held
          contradiction
      | eq =>
          have notAfter : compare key head.1 ≠ .gt := by simp [order]
          have others := findIn_none_iff.mp (findIn_tail sorted notAfter)
          rw [if_pos rfl, List.map_congr_left fun entry member => if_neg (others entry member),
            List.map_id']
      | gt =>
          rw [findIn, if_neg (by simp [order])] at held
          simp [ih held (List.pairwise_cons.mp sorted).2]

/-- Ascending lists that look the same contents up are equally long. -/
theorem length_eq_of_findIn_eq
    {first second : List (Key × Content)}
    (firstAscending : first.Pairwise Before) (secondAscending : second.Pairwise Before)
    (alike : ∀ key, (findIn key first).map Prod.snd = (findIn key second).map Prod.snd) :
    first.length = second.length := by
  induction first generalizing second with
  | nil =>
      cases second with
      | nil => rfl
      | cons head rest => simpa [findIn] using alike head.1
  | cons head rest ih =>
      cases second with
      | nil => simpa [findIn] using alike head.1
      | cons other others =>
          have headsSame : compare head.1 other.1 = .eq := by
            cases order : compare head.1 other.1 with
            | eq => rfl
            | lt =>
                have missing : findIn head.1 others = none :=
                  findIn_tail secondAscending (by simp [order])
                simpa [findIn, order, missing] using alike head.1
            | gt =>
                have turned := Std.OrientedCmp.lt_of_gt order
                have missing : findIn other.1 rest = none :=
                  findIn_tail firstAscending (by simp [turned])
                simpa [findIn, turned, missing] using alike other.1
          have restAlike (key : Key) :
              (findIn key rest).map Prod.snd = (findIn key others).map Prod.snd := by
            by_cases here : compare key head.1 = .eq
            · have there : compare key other.1 = .eq := Std.TransCmp.eq_trans here headsSame
              rw [findIn_tail firstAscending (by simp [here]),
                findIn_tail secondAscending (by simp [there])]
            · have there : compare key other.1 ≠ .eq := by
                rwa [← Std.TransCmp.congr_right headsSame]
              simpa [findIn, here, there] using alike key
          rw [List.length_cons, List.length_cons,
            ih (List.pairwise_cons.mp firstAscending).2
              (List.pairwise_cons.mp secondAscending).2 restAlike]

theorem Ascending.size_eq
    {first second : OrderedMap Key Content}
    (firstAscending : first.Ascending) (secondAscending : second.Ascending)
    (alike : ∀ key, first.get? key = second.get? key) :
    first.size = second.size :=
  length_eq_of_findIn_eq firstAscending secondAscending alike

/-! ## Storing entries of another map -/

/-- Storing an entry of an ascending map among others of its entries adds that entry. -/
theorem Ascending.mem_insertIn
    {map : OrderedMap Key Content} (ascending : map.Ascending)
    {entry : Key × Content} (member : entry ∈ map.entries)
    {entries : List (Key × Content)} (part : ∀ other ∈ entries, other ∈ map.entries)
    (sought : Key × Content) :
    sought ∈ insertIn entry.1 entry.2 entries ↔ sought = entry ∨ sought ∈ entries := by
  induction entries with
  | nil => simp [insertIn]
  | cons head rest ih =>
      have restPart : ∀ other ∈ rest, other ∈ map.entries :=
        fun other later => part other (List.mem_cons_of_mem head later)
      rw [insertIn]
      split
      · simp
      · next same =>
          have equal : entry = head :=
            ascending.eq_of_compare member (part head List.mem_cons_self) same
          simp [equal]
      · rw [List.mem_cons, ih restPart, List.mem_cons]
        exact or_left_comm

/-- Storing entries of an ascending map among others of its entries adds those entries. -/
theorem Ascending.mem_foldl_insert
    {map : OrderedMap Key Content} (ascending : map.Ascending)
    {found : List (Key × Content)} (foundPart : ∀ entry ∈ found, entry ∈ map.entries)
    {stored : OrderedMap Key Content} (storedAscending : stored.Ascending)
    (storedPart : ∀ entry ∈ stored.entries, entry ∈ map.entries) :
    let joined := found.foldl (fun stored entry => stored.insert entry.1 entry.2) stored
    joined.Ascending ∧
      ∀ entry, entry ∈ joined.entries ↔ entry ∈ stored.entries ∨ entry ∈ found := by
  induction found generalizing stored with
  | nil => simpa using storedAscending
  | cons head rest ih =>
      have headMember := foundPart head List.mem_cons_self
      have added := ascending.mem_insertIn headMember storedPart
      obtain ⟨joinedAscending, members⟩ :=
        ih (fun entry later => foundPart entry (List.mem_cons_of_mem head later))
          (storedAscending.insert head.1 head.2)
          (by
            intro entry member
            rcases (added entry).mp member with rfl | old
            · exact headMember
            · exact storedPart entry old)
      refine ⟨joinedAscending, ?_⟩
      intro entry
      rw [List.foldl_cons, members entry, OrderedMap.insert, added entry, List.mem_cons]
      exact or_assoc.trans or_left_comm

/-- A key that comes after all others is stored at the end. -/
theorem insertIn_of_last
    {entries : List (Key × Content)} {key : Key}
    (last : ∀ entry ∈ entries, compare entry.1 key = .lt) (content : Content) :
    insertIn key content entries = entries ++ [(key, content)] := by
  induction entries with
  | nil => rfl
  | cons head rest ih =>
      have above : compare key head.1 = .gt :=
        Std.OrientedCmp.gt_of_lt (last head List.mem_cons_self)
      rw [insertIn, above]
      simp [ih fun entry later => last entry (List.mem_cons_of_mem head later)]

/-- Storing the entries of an ascending map one after the other gives the map. -/
theorem Ascending.ofList_entries
    {map : OrderedMap Key Content} (ascending : map.Ascending) : ofList map.entries = map := by
  have stored (front rest : List (Key × Content)) (sorted : (front ++ rest).Pairwise Before) :
      rest.foldl (fun stored entry => stored.insert entry.1 entry.2) ⟨front⟩ =
        OrderedMap.mk (front ++ rest) := by
    induction rest generalizing front with
    | nil => simp
    | cons head rest ih =>
        have last : ∀ entry ∈ front, compare entry.1 head.1 = .lt := fun entry member =>
          (List.pairwise_append.mp sorted).2.2 entry member head List.mem_cons_self
        have joined : front ++ head :: rest = (front ++ [head]) ++ rest := by simp
        rw [List.foldl_cons, OrderedMap.insert, insertIn_of_last last, joined]
        exact ih _ (joined ▸ sorted)
  exact stored [] map.entries ascending

theorem foldl_insert_ascending
    {map : OrderedMap Key Content} (ascending : map.Ascending)
    (entries : List (Key × Content)) :
    (entries.foldl (fun map entry => map.insert entry.1 entry.2) map).Ascending := by
  induction entries generalizing map with
  | nil => exact ascending
  | cons head rest ih => exact ih (ascending.insert head.1 head.2)

theorem ofList_ascending (entries : List (Key × Content)) : (ofList entries).Ascending :=
  foldl_insert_ascending empty_ascending entries

theorem get?_foldl_insert
    (map : OrderedMap Key Content) (entries : List (Key × Content)) (sought : Key) :
    (entries.foldl (fun map entry => map.insert entry.1 entry.2) map).get? sought =
      ((entries.filter fun entry => compare sought entry.1 = .eq).getLast?.map Prod.snd).or
        (map.get? sought) := by
  induction entries generalizing map with
  | nil => rfl
  | cons head rest ih =>
      rw [List.foldl_cons, ih, get?_insert, List.filter_cons]
      by_cases same : compare sought head.1 = .eq
      · rw [if_pos same, if_pos (by simpa using same), List.getLast?_cons]
        cases (rest.filter fun entry => compare sought entry.1 = .eq).getLast? <;> rfl
      · rw [if_neg same, if_neg (by simpa using same)]

/-- Of the entries of one key the last stays. -/
theorem get?_ofList (entries : List (Key × Content)) (sought : Key) :
    (ofList entries).get? sought =
      (entries.filter fun entry => compare sought entry.1 = .eq).getLast?.map Prod.snd := by
  rw [ofList, get?_foldl_insert]
  exact Option.or_none

/-! ## Taking a store back -/

theorem insertIn_insertIn
    {entries : List (Key × Content)} {key : Key} {stored : Key × Content}
    (found : findIn key entries = some stored) (content : Content)
    (ascending : entries.Pairwise Before) :
    insertIn key stored.2 (insertIn key content entries) = entries := by
  induction entries with
  | nil => simp [findIn] at found
  | cons head rest ih =>
      rcases List.pairwise_cons.mp ascending with ⟨first, others⟩
      rw [findIn] at found
      by_cases here : compare key head.1 = .eq
      · rw [if_pos here] at found
        rcases Option.some.inj found with rfl
        simp [insertIn, here]
      · rw [if_neg here] at found
        have above : compare key head.1 = .gt := by
          rcases findIn_some found with ⟨member, same⟩
          rw [Std.TransCmp.congr_left same]
          exact Std.OrientedCmp.gt_of_lt (first stored member)
        simp [insertIn, above, ih found others]

/-- Storing the former content again takes a replacement back. -/
theorem Ascending.insert_insert
    {map : OrderedMap Key Content} (ascending : map.Ascending)
    {key : Key} {former : Content} (held : map.get? key = some former) (content : Content) :
    (map.insert key content).insert key former = map := by
  rw [get?, Option.map_eq_some_iff] at held
  rcases held with ⟨stored, found, rfl⟩
  rw [OrderedMap.insert, OrderedMap.insert, insertIn_insertIn found content ascending]

theorem filter_insertIn
    {entries : List (Key × Content)} {key : Key}
    (missing : findIn key entries = none) (content : Content) :
    (insertIn key content entries).filter (fun entry => compare key entry.1 != .eq) =
      entries := by
  have kept : entries.filter (fun entry => compare key entry.1 != .eq) = entries := by
    rw [List.filter_eq_self]
    intro entry member
    simpa using findIn_none_iff.mp missing entry member
  induction entries with
  | nil => simp [insertIn]
  | cons head rest ih =>
      have apart := findIn_none_iff.mp missing head List.mem_cons_self
      rw [findIn, if_neg apart] at missing
      rw [insertIn]
      split
      · rw [List.filter_cons_of_neg (by simp), kept]
      · next equal => exact absurd equal apart
      · have restKept := (List.filter_cons_of_pos (by simpa using apart)).symm.trans kept
        rw [List.filter_cons_of_pos (by simpa using apart),
          ih missing (List.cons.inj restKept).2]

/-- Removing a new key takes its store back. -/
theorem erase_insert
    {map : OrderedMap Key Content} {key : Key} (missing : map.get? key = none)
    (content : Content) :
    (map.insert key content).erase key = map := by
  rw [get?, Option.map_eq_none_iff] at missing
  rw [erase, filter, insert, filter_insertIn missing content]

/-! ## Other spellings of keys -/

/-- The map with every key spelled anew. -/
def respell (map : OrderedMap Key Content) (spell : Key → Key) : OrderedMap Key Content :=
  ⟨map.entries.map fun entry => (spell entry.1, entry.2)⟩

omit [Ord Key] [Std.TransOrd Key] in
/-- A map whose keys are spelled as they are stays what it is. -/
theorem respell_of_fixed
    {map : OrderedMap Key Content} {spell : Key → Key}
    (fixed : ∀ key ∈ map.keys, spell key = key) :
    map.respell spell = map := by
  have unchanged : ∀ entry ∈ map.entries, (spell entry.1, entry.2) = entry := by
    intro entry member
    rw [fixed entry.1 (List.mem_map_of_mem member)]
  rw [respell, List.map_congr_left unchanged, List.map_id']

section Spelling

variable {spell : Key → Key} (same : ∀ key, compare (spell key) key = .eq)

include same

theorem compare_respelled (key stored : Key) :
    compare key (spell stored) = compare key stored :=
  Std.TransCmp.congr_right (same stored)

/-- Storing under a key that is there commutes with spelling the keys anew. -/
theorem insertIn_respell
    {key : Key} {entries : List (Key × Content)} (found : (findIn key entries).isSome)
    (content : Content) (ascending : entries.Pairwise Before) :
    insertIn key content (entries.map fun entry => (spell entry.1, entry.2)) =
      (insertIn key content entries).map fun entry => (spell entry.1, entry.2) := by
  induction entries with
  | nil => simp [findIn] at found
  | cons head rest ih =>
      rcases List.pairwise_cons.mp ascending with ⟨first, others⟩
      rw [findIn] at found
      simp only [List.map_cons, insertIn, compare_respelled same]
      split
      · next below =>
          rw [if_neg (by simp [below])] at found
          rcases Option.isSome_iff_exists.mp found with ⟨stored, holds⟩
          rcases findIn_some holds with ⟨member, equal⟩
          have above : compare key head.1 = .gt := by
            rw [Std.TransCmp.congr_left equal]
            exact Std.OrientedCmp.gt_of_lt (first stored member)
          rw [above] at below
          contradiction
      · rfl
      · next above =>
          rw [if_neg (by simp [above])] at found
          rw [List.map_cons, ih found others]

theorem insert_respell
    {map : OrderedMap Key Content} (ascending : map.Ascending) {key : Key}
    (held : (map.get? key).isSome) (content : Content) :
    (map.respell spell).insert key content = (map.insert key content).respell spell := by
  rw [get?, Option.isSome_map] at held
  rw [insert, respell, insertIn_respell same held content ascending]
  rfl

theorem erase_respell (map : OrderedMap Key Content) (key : Key) :
    (map.respell spell).erase key = (map.erase key).respell spell := by
  simp only [erase, filter, respell, List.filter_map, Function.comp_def, compare_respelled same]

/-- A content that is stored again after its removal stands under the new spelling of its key. -/
theorem insertIn_respell_filter
    {key : Key} {entries : List (Key × Content)} {stored : Key × Content}
    (found : findIn key entries = some stored) (ascending : entries.Pairwise Before) :
    insertIn key stored.2
        ((entries.filter fun entry => compare key entry.1 != .eq).map fun entry =>
          (spell entry.1, entry.2)) =
      entries.map fun entry =>
        (if compare entry.1 key = .eq then key else spell entry.1, entry.2) := by
  induction entries with
  | nil => simp [findIn] at found
  | cons head rest ih =>
      rcases List.pairwise_cons.mp ascending with ⟨first, others⟩
      rw [findIn] at found
      by_cases here : compare key head.1 = .eq
      · rw [if_pos here] at found
        rcases Option.some.inj found with rfl
        -- The key is that of the first entry, so every other one stays, behind it.
        have below : ∀ entry ∈ rest, compare key entry.1 = .lt := by
          intro entry member
          rw [Std.TransCmp.congr_left here]
          exact first entry member
        have kept : (rest.filter fun entry => compare key entry.1 != .eq) = rest := by
          rw [List.filter_eq_self]
          intro entry member
          simp [below entry member]
        have unchanged :
            ∀ entry ∈ rest,
              (if compare entry.1 key = .eq then key else spell entry.1, entry.2) =
                (spell entry.1, entry.2) := by
          intro entry member
          have apart : compare entry.1 key ≠ .eq := by
            rw [Std.OrientedCmp.gt_of_lt (below entry member)]
            exact Ordering.noConfusion
          rw [if_neg apart]
        rw [List.filter_cons_of_neg (by simp [here]), kept, List.map_cons,
          if_pos (Std.OrientedCmp.eq_symm here), List.map_congr_left unchanged]
        cases rest with
        | nil => rfl
        | cons next others =>
            simp [insertIn, compare_respelled same, below next List.mem_cons_self]
      · rw [if_neg here] at found
        have above : compare key head.1 = .gt := by
          rcases findIn_some found with ⟨member, equal⟩
          rw [Std.TransCmp.congr_left equal]
          exact Std.OrientedCmp.gt_of_lt (first stored member)
        have apart : compare head.1 key ≠ .eq := fun equal => here (Std.OrientedCmp.eq_symm equal)
        rw [List.filter_cons_of_pos (by simp [above]), List.map_cons, List.map_cons, insertIn,
          if_neg apart]
        simp only [compare_respelled same, above]
        rw [ih found others]

/-- Storing a removed content again spells its key as it is stored now, and no other key. -/
theorem Ascending.insert_respell_erase
    {map : OrderedMap Key Content} (ascending : map.Ascending) {key : Key} {content : Content}
    (held : map.get? key = some content) :
    ((map.erase key).respell spell).insert key content =
      map.respell fun stored => if compare stored key = .eq then key else spell stored := by
  rw [get?, Option.map_eq_some_iff] at held
  rcases held with ⟨stored, found, rfl⟩
  rw [OrderedMap.insert, respell, OrderedMap.erase, OrderedMap.filter,
    insertIn_respell_filter same found ascending]
  rfl

end Spelling

end LiveTable.OrderedMap
