import LiveTable.Engine.Registry
import LiveTable.Proofs.OrderedMap

/-!
# What a registry lists

Watching and leaving change the entries of one id.  An id that watches a table is
listed there, the entries of every other id stay where they are, and nothing is
listed that was neither there before nor comes now.
-/

set_option autoImplicit false

namespace LiveTable.Registry

variable {Watcher : Type}

theorem entriesOf_setEntries
    (registry : Registry Watcher) (table sought : String) (entries : List (Nat × Watcher)) :
    (registry.setEntries table entries).entriesOf sought =
      if sought = table then entries else registry.entriesOf sought := by
  rw [setEntries, entriesOf]
  split
  · next none =>
      rw [OrderedMap.get?_erase]
      by_cases same : sought = table
      · rw [if_pos same, if_pos (Std.compare_eq_iff_eq.mpr same)]
        exact (List.isEmpty_iff.mp none).symm
      · rw [if_neg same, if_neg (mt Std.compare_eq_iff_eq.mp same), entriesOf]
  · rw [OrderedMap.get?_insert]
    by_cases same : sought = table
    · rw [if_pos same, if_pos (Std.compare_eq_iff_eq.mpr same)]
      rfl
    · rw [if_neg same, if_neg (mt Std.compare_eq_iff_eq.mp same), entriesOf]

/-- Leaving takes no entry of another id away. -/
theorem mem_entriesOf_remove
    {registry : Registry Watcher} {id other : Nat} {table : String} {watcher : Watcher}
    (different : other ≠ id) (listed : (other, watcher) ∈ registry.entriesOf table) :
    (other, watcher) ∈ (registry.remove id).entriesOf table := by
  rw [remove]
  split
  · exact listed
  · next former _ =>
      rw [entriesOf_setEntries]
      split
      · next same =>
          rw [← same]
          exact List.mem_filter.mpr ⟨listed, by simpa using different⟩
      · exact listed

/-- Leaving lists nothing new. -/
theorem of_mem_entriesOf_remove
    {registry : Registry Watcher} {id : Nat} {table : String} {entry : Nat × Watcher}
    (listed : entry ∈ (registry.remove id).entriesOf table) :
    entry ∈ registry.entriesOf table := by
  rw [remove] at listed
  split at listed
  · exact listed
  · rw [entriesOf_setEntries] at listed
    split at listed
    · next same =>
        rw [same]
        exact (List.mem_filter.mp listed).1
    · exact listed

theorem entriesOf_watch
    (registry : Registry Watcher) (id : Nat) (table sought : String) (watcher : Watcher) :
    (registry.watch id table watcher).entriesOf sought =
      if sought = table then (registry.remove id).entriesOf table ++ [(id, watcher)]
      else (registry.remove id).entriesOf sought := by
  change ((registry.remove id).setEntries table _).entriesOf sought = _
  rw [entriesOf_setEntries]

theorem mem_entriesOf_watch_self
    (registry : Registry Watcher) (id : Nat) (table : String) (watcher : Watcher) :
    (id, watcher) ∈ (registry.watch id table watcher).entriesOf table := by
  rw [entriesOf_watch, if_pos rfl]
  exact List.mem_append_right _ List.mem_cons_self

/-- Watching takes no entry of another id away. -/
theorem mem_entriesOf_watch
    {registry : Registry Watcher} {id other : Nat} {table sought : String}
    {watcher listed : Watcher} (different : other ≠ id)
    (member : (other, listed) ∈ registry.entriesOf sought) :
    (other, listed) ∈ (registry.watch id table watcher).entriesOf sought := by
  have kept := mem_entriesOf_remove different member
  rw [entriesOf_watch]
  split
  · next same =>
      rw [← same]
      exact List.mem_append_left _ kept
  · exact kept

/-- Watching lists nothing new but the watcher that comes. -/
theorem of_mem_entriesOf_watch
    {registry : Registry Watcher} {id : Nat} {table sought : String} {watcher : Watcher}
    {entry : Nat × Watcher}
    (listed : entry ∈ (registry.watch id table watcher).entriesOf sought) :
    entry = (id, watcher) ∨ entry ∈ registry.entriesOf sought := by
  rw [entriesOf_watch] at listed
  split at listed
  · next same =>
      rcases List.mem_append.mp listed with former | new
      · rw [same]
        exact Or.inr (of_mem_entriesOf_remove former)
      · exact Or.inl (List.mem_singleton.mp new)
  · exact Or.inr (of_mem_entriesOf_remove listed)

/-! ## The table of each id -/

theorem entriesOf_remove (registry : Registry Watcher) (id : Nat) (sought : String) :
    (registry.remove id).entriesOf sought =
      if registry.tableOf? id = some sought then
        (registry.entriesOf sought).filter (·.1 != id)
      else registry.entriesOf sought := by
  rw [remove]
  cases registry.tableOf? id with
  | none => rw [if_neg nofun]
  | some table =>
      dsimp only
      rw [entriesOf_setEntries]
      by_cases same : sought = table
      · rw [if_pos same, if_pos (congrArg some same.symm), same]
      · rw [if_neg same, if_neg fun other => same (Option.some.inj other).symm]
        rfl

theorem tableOf?_remove (registry : Registry Watcher) (id sought : Nat) :
    (registry.remove id).tableOf? sought =
      if sought = id then none else registry.tableOf? sought := by
  rw [remove]
  split
  · next missing =>
      split
      · next same => rw [same, missing]
      · rfl
  · show (registry.tables.erase id).get? sought = _
    rw [OrderedMap.get?_erase]
    simp only [Std.compare_eq_iff_eq]
    rfl

theorem tableOf?_watch
    (registry : Registry Watcher) (id sought : Nat) (table : String) (watcher : Watcher) :
    (registry.watch id table watcher).tableOf? sought =
      if sought = id then some table else registry.tableOf? sought := by
  show ((registry.remove id).tables.insert id table).get? sought = _
  rw [OrderedMap.get?_insert]
  simp only [Std.compare_eq_iff_eq]
  split
  · rfl
  · next different =>
      show (registry.remove id).tableOf? sought = _
      rw [tableOf?_remove, if_neg different]

end LiveTable.Registry
