import LiveTable.Proofs.Engine.Subscriptions
import LiveTable.Proofs.Value.TotalOrder

/-!
# Where callbacks stand

A callback that is registered stands somewhere until it goes: among the consumers of a
binding or of a cache, among those who wait for either, or elsewhere, that is with a
listener, a watcher or a unit in the queue.  Its number is its own, and no operation moves it
to another place.

So this is what may become of a binding or a cache while an engine goes on.  Where callbacks
stood, some may have gone, and behind those that stayed stand such as were numbered meanwhile
and registered just there.  What it holds stays too, unless it is given a result; and once it is
closed, it stays closed and has no callbacks left from before.
-/

set_option autoImplicit false

namespace LiveTable

/-! ## Lists of numbers -/

/--
A list of numbers has gone on as another.  Some of them may have gone; behind the rest stand
numbers from `low` up to `high`, in ascending order, that were let in.
-/
def Joins (admitted : Nat → Prop) (low high : Nat) (before after : List Nat) : Prop :=
  ∃ kept joined, after = kept ++ joined ∧ kept.Sublist before ∧ joined.Pairwise (· < ·) ∧
    ∀ number ∈ joined, low ≤ number ∧ number < high ∧ admitted number

namespace Joins

variable {admitted : Nat → Prop} {low middle high : Nat} {first second third : List Nat}

theorem of_sublist (fewer : second.Sublist first) : Joins admitted low high first second :=
  ⟨second, [], (List.append_nil _).symm, fewer, .nil, List.forall_mem_nil _⟩

theorem refl (numbers : List Nat) : Joins admitted low high numbers numbers :=
  of_sublist (List.Sublist.refl numbers)

/-- Somebody who was let in stands behind all others. -/
theorem snoc (numbers : List Nat) (lower : low ≤ middle) (upper : middle < high)
    (letIn : admitted middle) : Joins admitted low high numbers (numbers ++ [middle]) :=
  ⟨numbers, [middle], rfl, List.Sublist.refl numbers, List.pairwise_singleton _ _,
    List.forall_mem_singleton.mpr ⟨lower, upper, letIn⟩⟩

theorem trans (early : Joins admitted low middle first second)
    (late : Joins admitted middle high second third) (lower : low ≤ middle)
    (upper : middle ≤ high) : Joins admitted low high first third := by
  rcases early with ⟨kept, joined, rfl, fewer, ascending, admits⟩
  rcases late with ⟨stayed, came, rfl, stays, ascendingLate, admitsLate⟩
  rcases List.sublist_append_iff.mp stays with ⟨old, new, rfl, oldStays, newStays⟩
  refine ⟨old, new ++ came, List.append_assoc .., oldStays.trans fewer, ?_, ?_⟩
  · refine List.pairwise_append.mpr ⟨ascending.sublist newStays, ascendingLate, ?_⟩
    intro number isNew other isLate
    exact Nat.lt_of_lt_of_le (admits number (newStays.subset isNew)).2.1 (admitsLate other isLate).1
  · intro number member
    rcases List.mem_append.mp member with isNew | isLate
    · rcases admits number (newStays.subset isNew) with ⟨low, high, letIn⟩
      exact ⟨low, Nat.lt_of_lt_of_le high upper, letIn⟩
    · rcases admitsLate number isLate with ⟨low, high, letIn⟩
      exact ⟨Nat.le_trans lower low, high, letIn⟩

/-- Whoever stands there stood there before or was let in. -/
theorem mem (joins : Joins admitted low high first second) {number : Nat}
    (member : number ∈ second) :
    number ∈ first ∨ low ≤ number ∧ number < high ∧ admitted number := by
  rcases joins with ⟨kept, joined, rfl, fewer, _, admits⟩
  exact (List.mem_append.mp member).imp (fewer.subset ·) (admits number)

theorem admitted_of_mem (joins : Joins admitted low high first second) {number : Nat}
    (member : number ∈ second) : number ∈ first ∨ low ≤ number ∧ admitted number :=
  (joins.mem member).imp_right fun ⟨lower, _, letIn⟩ => ⟨lower, letIn⟩

/-- Numbers in ascending order stay so if they lie below those that may join. -/
theorem ascending (joins : Joins admitted low high first second)
    (before : first.Pairwise (· < ·)) (below : ∀ number ∈ first, number < low) :
    second.Pairwise (· < ·) := by
  rcases joins with ⟨kept, joined, rfl, fewer, ascending, admits⟩
  refine List.pairwise_append.mpr ⟨before.sublist fewer, ascending, ?_⟩
  intro number isOld other isNew
  exact Nat.lt_of_lt_of_le (below number (fewer.subset isOld)) (admits other isNew).1

end Joins

/-! ## Posts -/

/-- Where a callback can stand. -/
inductive Post where
  /-- Among the consumers of a binding. -/
  | consumer (binding : Nat)
  /-- Among those who wait for the next execution of a binding. -/
  | fetcher (binding : Nat)
  /-- Among the consumers of a cache. -/
  | follower (cache : Nat)
  /-- Among those who wait for the next fetch of a cache. -/
  | requester (cache : Nat)
  /-- With a listener, a watcher or a unit in the queue. -/
  | elsewhere
deriving DecidableEq

/-- What may come up while an engine goes on. -/
structure Terms where
  /-- Which callbacks are registered, and where. -/
  joins : Post → Nat → Prop
  /-- Which numbers are made to watch a table by hand. -/
  watches : Nat → Prop
  /-- Which bindings and caches are given a result. -/
  renews : Nat → Prop

/-- A watcher of the registry is the callback of a number. -/
def Registry.Names (registry : Registry Watcher) (number : Nat) : Prop :=
  ∃ table entry, entry ∈ registry.entriesOf table ∧ entry.2.calls number

namespace Binding

variable (binding? : Option Binding)

/-- The numbers of the consumers of a binding, if there is one. -/
def consumersOf : List Nat :=
  (binding?.elim [] (·.consumers.all)).map Callback.id

/-- The numbers of those who wait for a binding, if there is one. -/
def fetchersOf : List Nat :=
  (binding?.elim [] waiting).map Callback.id

end Binding

namespace ItemCache

variable (cache? : Option ItemCache)

/-- The numbers of the consumers of a cache, if there is one. -/
def followersOf : List Nat :=
  (cache?.elim [] (·.consumers.all)).map Callback.id

/-- The ids that are waited for, each with the number of the callback, if there is a cache. -/
def requestsOf : List (Value × Nat) :=
  (cache?.elim [] waiting).map fun waits => (waits.1, waits.2.id)

end ItemCache

namespace ValueSet

variable {set : ValueSet} {value : Value}

/-- A set that has taken a value in has every value that it had before. -/
theorem contains_add_of_contains (added : Value) (contains : set.contains value) :
    (set.add added).contains value := by
  rw [add]
  split
  · exact contains
  · rw [OrderedMap.contains_eq_isSome, OrderedMap.get?_insert]
    split
    · rfl
    · rwa [← OrderedMap.contains_eq_isSome]

theorem contains_add_self (set : ValueSet) (value : Value) : (set.add value).contains value := by
  rw [add]
  split
  · next contains => exact contains
  · rw [OrderedMap.contains_eq_isSome, OrderedMap.get?_insert_self]
    rfl

theorem contains_addAll_of_contains (values : List Value) (contains : set.contains value) :
    (set.addAll values).contains value := by
  induction values generalizing set with
  | nil => exact contains
  | cons added rest ih => exact ih (contains_add_of_contains added contains)

end ValueSet

namespace Engine

variable (engine : Engine)

/-- The numbers of the callbacks that stand with a binding or a cache, in their order. -/
def posted : Post → List Nat
  | .consumer id => Binding.consumersOf (engine.bindings.get? id)
  | .fetcher id => Binding.fetchersOf (engine.bindings.get? id)
  | .follower id => ItemCache.followersOf (engine.caches.get? id)
  | .requester id => (ItemCache.requestsOf (engine.caches.get? id)).map Prod.snd
  | .elsewhere => []

/-- A callback of the number stands with neither a binding nor a cache. -/
inductive Elsewhere (number : Nat) : Prop where
  | listens {callback : Callback} (listens : .callback callback ∈ engine.listeners.all)
      (numbered : callback.id = number)
  | watches (watches : engine.registry.Names number)
  | watched {generation : Nat} {former : FormerRegistry}
      (held : engine.former.get? generation = some former) (watches : former.registry.Names number)
  | queued {task : Task} {callback : Callback} (waits : task ∈ engine.queue)
      (called : callback ∈ task.callbacks) (numbered : callback.id = number)

/-- A callback of the number stands at a post. -/
def Stands (post : Post) (number : Nat) : Prop :=
  number ∈ engine.posted post ∨ post = .elsewhere ∧ engine.Elsewhere number

/-- The result that the binding of a number holds. -/
def valueOf? (id : Nat) : Option QueryResult :=
  (engine.bindings.get? id).bind Binding.value?

/-- How often the value of the binding of a number was replaced. -/
def versionOf (id : Nat) : Nat :=
  (engine.bindings.get? id).elim 0 Binding.version

/-- Whether the binding of a number is closed. -/
def hasClosedBinding (id : Nat) : Bool :=
  (engine.bindings.get? id).any Binding.isClosed

/-- Whether the cache of a number is closed. -/
def hasClosedCache (id : Nat) : Bool :=
  (engine.caches.get? id).any ItemCache.isClosed

/-- A number is that of a binding or of a cache, not of both, and was given out. -/
structure Apart (id : Nat) : Prop where
  binding : (engine.bindings.get? id).isSome → id < engine.nextId ∧ engine.caches.get? id = none
  cache : (engine.caches.get? id).isSome → id < engine.nextId

/-- What is closed watches nothing. -/
def Unwatched (id : Nat) : Prop :=
  engine.hasClosedBinding id ∨ engine.hasClosedCache id → engine.registry.tableOf? id = none

end Engine

/-! ## Objects that go on -/

/--
What a binding, if there is one, may have become while numbers from `low` to `high` were given
out.
-/
structure Binding.Becomes (terms : Terms) (id low high : Nat) (before after : Option Binding) :
    Prop where
  held : before.isSome → after.isSome
  consumers : Joins (terms.joins (.consumer id)) low high (consumersOf before) (consumersOf after)
  fetchers : Joins (terms.joins (.fetcher id)) low high (fetchersOf before) (fetchersOf after)
  closed : before.any isClosed → after.any isClosed
  /-- Once it is closed, no callback from before is left. -/
  emptied : after.any isClosed →
    before.any isClosed ∨ ∀ number ∈ consumersOf after ++ fetchersOf after, low ≤ number
  value : ¬ terms.renews id → after.bind value? = before.bind value?
  version : ¬ terms.renews id → after.elim 0 version = before.elim 0 version

/--
What a cache, if there is one, may have become while numbers from `low` to `high` were given
out.
-/
structure ItemCache.Becomes (terms : Terms) (id low high : Nat) (before after : Option ItemCache) :
    Prop where
  held : before.isSome → after.isSome
  followers : Joins (terms.joins (.follower id)) low high (followersOf before) (followersOf after)
  requesters : Joins (terms.joins (.requester id)) low high
    ((requestsOf before).map Prod.snd) ((requestsOf after).map Prod.snd)
  closed : before.any isClosed → after.any isClosed
  /-- Once it is closed, no callback from before is left. -/
  emptied : after.any isClosed →
    before.any isClosed ∨
      ∀ number ∈ followersOf after ++ (requestsOf after).map Prod.snd, low ≤ number
  items : ¬ terms.renews id → after.elim .empty items = before.elim .empty items
  /-- Nobody stops waiting until there are records, or the cache is closed. -/
  requests : ¬ terms.renews id → ∀ number < low,
    (requestsOf after).filter (·.2 == number) = (requestsOf before).filter (·.2 == number) ∨
      after.any isClosed ∧ (requestsOf after).filter (·.2 == number) = []
  idField (name : String) : before.map idField = some name → after.map idField = some name
  tracked (item : Value) :
    before.any (·.tracked.contains item) → after.any (·.tracked.contains item)

section Objects

variable {terms : Terms} {id low middle high : Nat}

theorem Binding.Becomes.refl (binding? : Option Binding) :
    Becomes terms id low high binding? binding? where
  held := fun held => held
  consumers := .refl _
  fetchers := .refl _
  closed := fun closed => closed
  emptied := .inl
  value _ := rfl
  version _ := rfl

theorem Binding.Becomes.trans {first second third : Option Binding}
    (early : Becomes terms id low middle first second)
    (late : Becomes terms id middle high second third) (lower : low ≤ middle)
    (upper : middle ≤ high) : Becomes terms id low high first third where
  held := late.held ∘ early.held
  consumers := early.consumers.trans late.consumers lower upper
  fetchers := early.fetchers.trans late.fetchers lower upper
  closed := late.closed ∘ early.closed
  emptied closed := by
    rcases late.emptied closed with closedBefore | new
    · refine (early.emptied closedBefore).imp_right fun new number member => ?_
      rcases List.mem_append.mp member with consumes | fetches
      · rcases late.consumers.mem consumes with old | ⟨low, _⟩
        · exact new number (List.mem_append_left _ old)
        · exact Nat.le_trans lower low
      · rcases late.fetchers.mem fetches with old | ⟨low, _⟩
        · exact new number (List.mem_append_right _ old)
        · exact Nat.le_trans lower low
    · exact .inr fun number member => Nat.le_trans lower (new number member)
  value same := (late.value same).trans (early.value same)
  version same := (late.version same).trans (early.version same)

/-- A change of a binding that neither closes nor renews it. -/
theorem Binding.Becomes.of_joins {before after : Binding}
    (consumers : Joins (terms.joins (.consumer id)) low high
      (consumersOf (some before)) (consumersOf (some after)))
    (fetchers : Joins (terms.joins (.fetcher id)) low high
      (fetchersOf (some before)) (fetchersOf (some after)))
    (isClosed : after.isClosed = before.isClosed) (value : after.value? = before.value?)
    (version : after.version = before.version) :
    Becomes terms id low high (some before) (some after) where
  held _ := rfl
  consumers := consumers
  fetchers := fetchers
  closed := by simp [isClosed]
  emptied := by
    intro closed
    simp only [Option.any_some, isClosed] at closed
    exact .inl closed
  value _ := value
  version _ := version

theorem ItemCache.Becomes.refl (cache? : Option ItemCache) :
    Becomes terms id low high cache? cache? where
  held := fun held => held
  followers := .refl _
  requesters := .refl _
  closed := fun closed => closed
  emptied := .inl
  items _ := rfl
  requests _ _ _ := .inl rfl
  idField _ named := named
  tracked _ tracked := tracked

/-- A change of a cache that neither closes nor refills it; at most one comes to wait by it. -/
theorem ItemCache.Becomes.of_joins {before after : ItemCache} {joined : List (Value × Nat)}
    (followers : Joins (terms.joins (.follower id)) low high
      (followersOf (some before)) (followersOf (some after)))
    (requests : requestsOf (some after) = requestsOf (some before) ++ joined)
    (single : joined.length ≤ 1)
    (joins : ∀ waits ∈ joined, low ≤ waits.2 ∧ waits.2 < high ∧ terms.joins (.requester id) waits.2)
    (isClosed : after.isClosed = before.isClosed) (items : after.items = before.items)
    (idField : after.idField = before.idField)
    (tracked : ∀ item, before.tracked.contains item → after.tracked.contains item) :
    Becomes terms id low high (some before) (some after) where
  held _ := rfl
  followers := followers
  requesters := by
    refine ⟨(requestsOf (some before)).map Prod.snd, joined.map Prod.snd, ?_, .refl _, ?_,
      List.forall_mem_map.mpr joins⟩
    · rw [requests, List.map_append]
    · rcases joined with _ | ⟨only, _ | ⟨second, rest⟩⟩
      · exact .nil
      · exact List.pairwise_singleton _ _
      · exact absurd single (by simp)
  closed := by simp [isClosed]
  emptied := by
    intro closed
    simp only [Option.any_some, isClosed] at closed
    exact .inl closed
  items _ := items
  requests _ number below := by
    have none : joined.filter (·.2 == number) = [] := by
      rw [List.filter_eq_nil_iff]
      intro waits member same
      have lower := (joins waits member).1
      rw [beq_iff_eq.mp same] at lower
      exact absurd lower (Nat.not_le_of_lt below)
    rw [requests, List.filter_append, none, List.append_nil]
    exact .inl rfl
  idField name named := by
    rw [← named]
    exact congrArg some idField
  tracked := tracked

theorem ItemCache.Becomes.trans {first second third : Option ItemCache}
    (early : Becomes terms id low middle first second)
    (late : Becomes terms id middle high second third) (lower : low ≤ middle)
    (upper : middle ≤ high) : Becomes terms id low high first third where
  held := late.held ∘ early.held
  followers := early.followers.trans late.followers lower upper
  requesters := early.requesters.trans late.requesters lower upper
  closed := late.closed ∘ early.closed
  emptied closed := by
    rcases late.emptied closed with closedBefore | new
    · refine (early.emptied closedBefore).imp_right fun new number member => ?_
      rcases List.mem_append.mp member with follows | requests
      · rcases late.followers.mem follows with old | ⟨low, _⟩
        · exact new number (List.mem_append_left _ old)
        · exact Nat.le_trans lower low
      · rcases late.requesters.mem requests with old | ⟨low, _⟩
        · exact new number (List.mem_append_right _ old)
        · exact Nat.le_trans lower low
    · exact .inr fun number member => Nat.le_trans lower (new number member)
  items same := (late.items same).trans (early.items same)
  requests same number below := by
    rcases late.requests same number (Nat.lt_of_lt_of_le below lower) with kept | gone
    · rw [kept]
      exact (early.requests same number below).imp_right (And.imp_left late.closed)
    · exact .inr gone
  idField name named := late.idField name (early.idField name named)
  tracked item tracked := late.tracked item (early.tracked item tracked)

end Objects

end LiveTable
