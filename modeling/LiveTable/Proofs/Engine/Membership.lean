import LiveTable.Proofs.Engine.Registry
import LiveTable.Proofs.Engine.Standing
import Mathlib.Algebra.GroupWithZero.Nat
import Mathlib.Data.List.Nodup

/-!
# Two maps of one membership

A registry says twice who watches what: it has the table of each id, and the watchers of
each table.  The two are changed one after the other, but watching, leaving and clearing
keep them in agreement: an id stands in the list of its table, once, and in no other list,
and no table is listed without watchers.

So what the statistics count agrees as well: the watched tables are those that somebody
watches, and there are as many watchers as the lists are long together.
-/

set_option autoImplicit false

namespace LiveTable

namespace Registry

variable {Watcher : Type}

/-- The ids of the watchers of a table, in the order in which they came. -/
def idsOf (registry : Registry Watcher) (table : String) : List Nat :=
  (registry.entriesOf table).map Prod.fst

/-- The two maps of a registry agree. -/
structure Coherent (registry : Registry Watcher) : Prop where
  tables : registry.tables.Ascending
  watchers : registry.watchers.Ascending
  listed (id : Nat) (table : String) :
    registry.tableOf? id = some table ↔ id ∈ registry.idsOf table
  once (table : String) : (registry.idsOf table).Nodup
  inhabited {table : String} {entries : List (Nat × Watcher)}
    (held : registry.watchers.get? table = some entries) : entries ≠ []

variable {registry : Registry Watcher}

theorem empty_coherent : (empty : Registry Watcher).Coherent where
  tables := OrderedMap.empty_ascending
  watchers := OrderedMap.empty_ascending
  listed _ _ := ⟨nofun, nofun⟩
  once _ := List.nodup_nil
  inhabited held := nomatch held

/-! ## Keeping the maps in agreement -/

theorem setEntries_watchers_ascending (ascending : registry.watchers.Ascending) (table : String)
    (entries : List (Nat × Watcher)) : (registry.setEntries table entries).watchers.Ascending := by
  rw [setEntries]
  dsimp only
  split
  · exact ascending.erase table
  · exact ascending.insert table entries

/-- No empty list is set. -/
theorem setEntries_inhabited
    (inhabited : ∀ {sought entries}, registry.watchers.get? sought = some entries → entries ≠ [])
    (table : String) (entries : List (Nat × Watcher)) {sought : String}
    {found : List (Nat × Watcher)}
    (held : (registry.setEntries table entries).watchers.get? sought = some found) :
    found ≠ [] := by
  rw [setEntries] at held
  dsimp only at held
  split at held
  · rw [OrderedMap.get?_erase] at held
    split at held
    · contradiction
    · exact inhabited held
  · next some =>
      rw [OrderedMap.get?_insert] at held
      split at held
      · rw [← Option.some.inj held]
        exact fun none => some (List.isEmpty_iff.mpr none)
      · exact inhabited held

namespace Coherent

theorem not_mem_idsOf (coherent : registry.Coherent) {id : Nat} {table : String}
    (other : registry.tableOf? id ≠ some table) : id ∉ registry.idsOf table :=
  mt (coherent.listed id table).mpr other

/-- An id that leaves is taken out of the one list that it may stand in. -/
theorem idsOf_remove (coherent : registry.Coherent) (id : Nat) (table : String) :
    (registry.remove id).idsOf table = (registry.idsOf table).filter (· != id) := by
  rw [idsOf, entriesOf_remove]
  split
  · rw [idsOf, List.filter_map]
    rfl
  · next elsewhere =>
      rw [← idsOf, eq_comm, List.filter_eq_self]
      intro other member
      rw [bne_iff_ne]
      rintro rfl
      exact coherent.not_mem_idsOf elsewhere member

theorem remove (coherent : registry.Coherent) (id : Nat) : (registry.remove id).Coherent where
  tables := by
    rw [Registry.remove]
    split
    · exact coherent.tables
    · exact coherent.tables.erase id
  watchers := by
    rw [Registry.remove]
    split
    · exact coherent.watchers
    · next table _ =>
        let left : Registry Watcher := { registry with tables := registry.tables.erase id }
        have ascending : left.watchers.Ascending := coherent.watchers
        exact setEntries_watchers_ascending ascending table _
  listed other table := by
    rw [tableOf?_remove, coherent.idsOf_remove, List.mem_filter, ← coherent.listed]
    by_cases same : other = id <;> simp [same]
  once table := by
    rw [coherent.idsOf_remove]
    exact (coherent.once table).filter _
  inhabited held := by
    rw [Registry.remove] at held
    split at held
    · exact coherent.inhabited held
    · exact setEntries_inhabited coherent.inhabited _ _ held

theorem idsOf_watch (coherent : registry.Coherent) (id : Nat) (table sought : String)
    (watcher : Watcher) :
    (registry.watch id table watcher).idsOf sought =
      (registry.idsOf sought).filter (· != id) ++ if sought = table then [id] else [] := by
  rw [idsOf, entriesOf_watch, ← coherent.idsOf_remove]
  split
  · next same => rw [List.map_append, idsOf, same, List.map_singleton]
  · rw [idsOf, List.append_nil]

/-- A watcher that comes, be it again, is listed for its table and for no other. -/
theorem watch (coherent : registry.Coherent) (id : Nat) (table : String) (watcher : Watcher) :
    (registry.watch id table watcher).Coherent where
  tables := (coherent.remove id).tables.insert id table
  watchers := setEntries_watchers_ascending (coherent.remove id).watchers table _
  listed other sought := by
    rw [tableOf?_watch, coherent.idsOf_watch, List.mem_append, List.mem_filter, ← coherent.listed]
    have turned : (table = sought) = (sought = table) := propext eq_comm
    by_cases same : other = id
    · by_cases here : sought = table <;> simp [same, here, turned]
    · by_cases here : sought = table <;> simp [same, here]
  once sought := by
    rw [coherent.idsOf_watch]
    have kept := (coherent.once sought).filter (· != id)
    split
    · refine kept.append (List.nodup_singleton id) ?_
      intro other member new
      rw [List.mem_singleton.mp new] at member
      simpa using (List.mem_filter.mp member).2
    · rwa [List.append_nil]
  inhabited held := setEntries_inhabited (coherent.remove id).inhabited table _ held

/-! ## Counts -/

/-- An id stands in one list at most. -/
theorem eq_of_mem_idsOf (coherent : registry.Coherent) {id : Nat} {first second : String}
    (inFirst : id ∈ registry.idsOf first) (inSecond : id ∈ registry.idsOf second) :
    first = second := by
  have watched := (coherent.listed id first).mpr inFirst
  rw [(coherent.listed id second).mpr inSecond] at watched
  exact (Option.some.inj watched).symm

/-- The list that is stored for a table is that of its watchers. -/
theorem idsOf_of_mem (coherent : registry.Coherent) {entry : String × List (Nat × Watcher)}
    (member : entry ∈ registry.watchers.entries) :
    registry.idsOf entry.1 = entry.2.map Prod.fst := by
  rw [idsOf, entriesOf, coherent.watchers.get?_of_mem member]
  rfl

/-- The tables that are listed are those that somebody watches. -/
theorem mem_keys_watchers (coherent : registry.Coherent) (table : String) :
    table ∈ registry.watchers.keys ↔ ∃ id, registry.tableOf? id = some table := by
  rw [OrderedMap.mem_keys_iff]
  constructor
  · intro found
    rcases Option.isSome_iff_exists.mp found with ⟨entries, held⟩
    rcases List.exists_mem_of_ne_nil entries (coherent.inhabited held) with ⟨entry, member⟩
    refine ⟨entry.1, (coherent.listed entry.1 table).mpr ?_⟩
    rw [idsOf, entriesOf, held]
    exact List.mem_map_of_mem member
  · rintro ⟨id, watched⟩
    have member := (coherent.listed id table).mp watched
    rw [idsOf, entriesOf] at member
    cases held : registry.watchers.get? table with
    | none => simp [held] at member
    | some entries => rfl

/-- The lists together hold every id that watches a table, once. -/
theorem keys_perm (coherent : registry.Coherent) :
    registry.tables.keys.Perm
      (registry.watchers.entries.flatMap fun entry => entry.2.map Prod.fst) := by
  rw [List.perm_ext_iff_of_nodup coherent.tables.keys_nodup]
  · intro id
    rw [OrderedMap.mem_keys_iff, List.mem_flatMap]
    constructor
    · intro watches
      rcases Option.isSome_iff_exists.mp watches with ⟨table, watched⟩
      rcases List.mem_map.mp ((coherent.mem_keys_watchers table).mpr ⟨id, watched⟩) with
        ⟨entry, member, rfl⟩
      refine ⟨entry, member, ?_⟩
      rw [← coherent.idsOf_of_mem member]
      exact (coherent.listed id entry.1).mp watched
    · rintro ⟨entry, member, inEntry⟩
      rw [← coherent.idsOf_of_mem member] at inEntry
      exact Option.isSome_iff_exists.mpr ⟨entry.1, (coherent.listed id entry.1).mpr inEntry⟩
  · rw [List.nodup_flatMap]
    constructor
    · intro entry member
      rw [← coherent.idsOf_of_mem member]
      exact coherent.once entry.1
    · refine coherent.watchers.imp_of_mem ?_
      intro first second inFirst inSecond before id listedFirst listedSecond
      dsimp only at listedFirst listedSecond
      rw [← coherent.idsOf_of_mem inFirst] at listedFirst
      rw [← coherent.idsOf_of_mem inSecond] at listedSecond
      rw [OrderedMap.Before, coherent.eq_of_mem_idsOf listedFirst listedSecond,
        Std.ReflOrd.compare_self] at before
      contradiction

end Coherent

/-- What the statistics of a registry say of those who watch. -/
structure Counted (registry : Registry Watcher) : Prop where
  sorted : registry.stats.tables.Pairwise (· < ·)
  watched (table : String) :
    table ∈ registry.stats.tables ↔ ∃ id, registry.tableOf? id = some table
  subscriptions : registry.stats.subscriptions = registry.stats.tables.length
  subscribers : registry.stats.subscribers =
    (registry.stats.tables.map fun table => (registry.entriesOf table).length).sum

theorem Coherent.counted (coherent : registry.Coherent) : registry.Counted where
  sorted := by
    show registry.watchers.keys.Pairwise (· < ·)
    rw [OrderedMap.keys, List.pairwise_map]
    exact coherent.watchers.imp fun before => compareOfLessAndEq_eq_lt.mp before
  watched := coherent.mem_keys_watchers
  subscriptions := (List.length_map _).symm
  subscribers := by
    show registry.tables.entries.length = _
    have counted := coherent.keys_perm.length_eq
    rw [OrderedMap.keys, List.length_map, List.length_flatMap] at counted
    show _ = (registry.watchers.keys.map _).sum
    rw [counted, OrderedMap.keys, List.map_map]
    congr 1
    apply List.map_congr_left
    intro entry member
    rw [← coherent.idsOf_of_mem member, idsOf, List.length_map]
    rfl

end Registry

namespace Standing

/-- Every registry that an engine has or still holds is coherent. -/
structure Coherent (standing : Standing) : Prop where
  registry : standing.registry.Coherent
  former {generation : Nat} {former : FormerRegistry}
    (held : standing.former.get? generation = some former) : former.registry.Coherent

theorem Coherent.shift {before after : Standing} (coherent : before.Coherent)
    (shift : before.Shift after) : after.Coherent := by
  cases shift with
  | schedule | enqueue | finish | pass => exact ⟨coherent.registry, coherent.former⟩
  | watch id table watcher => exact ⟨coherent.registry.watch id table watcher, coherent.former⟩
  | leave id => exact ⟨coherent.registry.remove id, coherent.former⟩
  | clear => exact ⟨Registry.empty_coherent, coherent.former⟩
  | putBy generation attachment? =>
      refine ⟨coherent.registry, ?_⟩
      intro sought former held
      rw [OrderedMap.get?_insert] at held
      split at held
      · rw [← Option.some.inj held]
        exact coherent.registry
      · exact coherent.former held
  | forget generation =>
      refine ⟨coherent.registry, ?_⟩
      intro sought former held
      rw [OrderedMap.get?_erase] at held
      split at held
      · contradiction
      · exact coherent.former held

end Standing

/-! ## Leaving -/

namespace Machine

variable (machine : Machine) {id : Nat}

/-- Who leaves is told whether they watched anything. -/
theorem leave_reply (id : Nat) :
    (machine.perform (.registry (.leave id))).reply =
      .flag (machine.engine.registry.tableOf? id).isSome := by
  show Reply.flag (machine.engine.registry.tables.contains id) = _
  rw [OrderedMap.contains_eq_isSome, Registry.tableOf?]

theorem leave_of_none (missing : machine.engine.registry.tableOf? id = none) :
    (machine.perform (.registry (.leave id))).engine = machine.engine := by
  show machine.engine.leave id = machine.engine
  rw [Engine.leave, Registry.remove, missing]

end Machine

/-! ## Between the steps -/

theorem Engine.AtWork.coherent {name : String} {schema : StoreSchema} {config : Config}
    {machine : Machine} (atWork : (create name schema config).AtWork machine) :
    machine.engine.standing.Coherent :=
  atWork.keeps (fun coherent shift => coherent.shift shift) ⟨Registry.empty_coherent, nofun⟩

/--
Whatever is asked of a new engine, by callbacks during a dispatch as well, between any two
steps its registry, and every former one that is still held, agrees with itself: an id is
said to watch a table if and only if it stands in the list of that table, once, and then in
no other list; and no list that is kept is empty.  So the statistics list the watched tables,
sorted and once each, and count as many watchers as there are in the lists.  Who leaves
without watching anything, as on leaving for the second time, is told so, and nothing changes.
-/
theorem registries_coherent
    {name : String} {schema : StoreSchema} {config : Config} {machine : Machine}
    (atWork : (Engine.create name schema config).AtWork machine) :
    (∀ generation registry, machine.engine.registryOf? generation = some registry →
      (∀ id table,
        (registry.tableOf? id = some table ↔ id ∈ registry.idsOf table) ∧
        (registry.tableOf? id = some table → (registry.idsOf table).count id = 1 ∧
          ∀ other, other ≠ table → id ∉ registry.idsOf other)) ∧
      (∀ table entries, registry.watchers.get? table = some entries → entries ≠ []) ∧
      registry.Counted) ∧
    ∀ id,
      let left := machine.perform (.registry (.leave id))
      let again := left.perform (.registry (.leave id))
      left.reply = .flag (machine.engine.registry.tableOf? id).isSome ∧
        (machine.engine.registry.tableOf? id = none → left.engine = machine.engine) ∧
        again.reply = .flag false ∧ again.engine = left.engine := by
  constructor
  · intro generation registry found
    have coherent : registry.Coherent := by
      rw [Engine.registryOf?] at found
      split at found
      · rw [← Option.some.inj found]
        exact atWork.coherent.registry
      · rcases Option.map_eq_some_iff.mp found with ⟨former, held, rfl⟩
        exact atWork.coherent.former held
    refine ⟨?_, fun table entries held => coherent.inhabited held, coherent.counted⟩
    intro id table
    refine ⟨coherent.listed id table, ?_⟩
    intro watched
    have member := (coherent.listed id table).mp watched
    refine ⟨List.count_eq_one_of_mem (coherent.once table) member, ?_⟩
    intro other different inOther
    exact different (coherent.eq_of_mem_idsOf inOther member)
  · intro id left again
    have gone : left.engine.registry.tableOf? id = none := by
      show (machine.engine.registry.remove id).tableOf? id = none
      rw [Registry.tableOf?_remove, if_pos rfl]
    refine ⟨machine.leave_reply id, machine.leave_of_none, ?_, left.leave_of_none gone⟩
    have answer := left.leave_reply id
    rwa [gone] at answer

/--
Two ids watch a table, and the callback of the first, during a dispatch, moves itself to
another table and lets the second leave.  In the midst of that dispatch one table is listed,
with one watcher.
-/
theorem registries_coherent_during_dispatch :
    let first : Engine := .create "s" ⟨1, []⟩ .standard
    let silent : Reaction Command := ⟨"r", [], 0⟩
    let moving : Reaction Command :=
      ⟨"m", [.registry (.watch 7 "u" silent), .registry (.leave 8)], 1⟩
    let asked : List Command :=
      [.registry (.watch 7 "t" moving), .registry (.watch 8 "t" silent)]
    let next (machine : Machine) : Machine := machine.step?.getD machine
    let ready := Machine.start (asked.foldl (Engine.afterCall 20) first)
      (.registry (.dispatch [⟨"t", .integer 1, none, none⟩]))
    let machine := next (next (next (next (next (next (next (next ready)))))))
    first.AtWork machine ∧ machine.agenda ≠ [] ∧
      machine.engine.registry.tableOf? 7 = some "u" ∧
      (machine.engine.registry.idsOf "u").count 7 = 1 ∧ 7 ∉ machine.engine.registry.idsOf "t" ∧
      machine.engine.registry.stats = ⟨1, ["u"], 1⟩ := by
  intro first silent moving asked next ready machine
  have atReady : first.AtWork ready :=
    .start (Engine.Reachable.start.afterCalls 20 asked) _
  have atWork : first.AtWork machine :=
    atReady.next.next.next.next.next.next.next.next
  have found : machine.agenda.isEmpty = false ∧
      machine.engine.registry.tableOf? 7 = some "u" ∧
      machine.engine.registry.stats = ⟨1, ["u"], 1⟩ := by
    subst machine next ready asked moving silent first
    decide +kernel
  rcases found with ⟨unfinished, watched, counted⟩
  have present :
      machine.engine.registryOf? machine.engine.generation = some machine.engine.registry :=
    if_pos rfl
  have once := (((registries_coherent atWork).1 _ _ present).1 7 "u").2 watched
  exact ⟨atWork, List.isEmpty_eq_false_iff.mp unfinished, watched, once.1,
    once.2 "t" (by decide), counted⟩

end LiveTable
