import LiveTable.Engine.Run
import LiveTable.Proofs.Engine.Caching
import LiveTable.Proofs.Engine.Fetching
import LiveTable.Proofs.Engine.Progress
import LiveTable.Proofs.Engine.Storage

/-!
# What happens to caches

The steps of a machine tell what happens to what a cache holds: its unit runs, with success
or without, and it is made to track an id by a command that asks for no fetch.  The latest
deed tells whether the cache is up to date.

After a fetch that succeeded, and the step that gives the cache its records, the cache
shows its table, whatever else the engine was asked.
-/

set_option autoImplicit false

namespace LiveTable

/-- What can happen to what a cache holds. -/
inductive Deed where
  /-- Its unit has run. -/
  | fetched (cache : Nat) (succeeded : Bool)
  /-- It has come to track an id, and no fetch was asked for. -/
  | extended (cache : Nat)
deriving Repr, DecidableEq

namespace Deed

/-- The cache to which a deed has happened. -/
def cache : Deed → Nat
  | fetched cache _ => cache
  | extended cache => cache

/-- Whether a deed is a fetch that succeeded. -/
def isSuccess : Deed → Bool
  | fetched _ succeeded => succeeded
  | extended _ => false

/--
Whether a cache was fetched, its last fetch did not fail, and it was not made to track
another id since; the latest deed comes first.
-/
def upToDate (history : List Deed) (id : Nat) : Bool :=
  (history.find? (·.cache == id)).any isSuccess

theorem upToDate_cons_self (deed : Deed) (history : List Deed) :
    upToDate (deed :: history) deed.cache = deed.isSuccess := by
  simp [upToDate]

theorem upToDate_cons_other
    {deed : Deed} {id : Nat} (other : deed.cache ≠ id) (history : List Deed) :
    upToDate (deed :: history) id = upToDate history id := by
  simp [upToDate, other]

/-- A cache to which nothing has happened was not fetched. -/
theorem upToDate_of_new
    {history : List Deed} {id : Nat} (none : ∀ deed ∈ history, deed.cache ≠ id) :
    upToDate history id = false := by
  have nothing : history.find? (·.cache == id) = Option.none := by
    apply List.find?_eq_none.mpr
    simpa using none
  rw [upToDate, nothing]
  rfl

end Deed

namespace Machine

/-- What the next step does to what a cache holds. -/
def deed? (machine : Machine) : Option Deed :=
  match machine.agenda, machine.engine.queue with
  | .drain _ none :: _, .unit id .cache clock :: rest =>
    let engine := { machine.engine with queue := rest }
    (engine.unit? id .cache).map fun unit => .fetched id (engine.runUnit unit clock).1.isOk
  | .perform (.cache (.track name ids)) :: _, _ =>
    (machine.engine.cache? name).bind fun found =>
      if ids.all found.2.tracked.contains then none else some (.extended found.1)
  | _, _ => none

/-- The history of deeds after the next step. -/
def chronicle (machine : Machine) (history : List Deed) : List Deed :=
  machine.deed?.toList ++ history

variable {machine : Machine}

theorem chronicle_of_none (none : machine.deed? = none) (history : List Deed) :
    machine.chronicle history = history := by
  rw [chronicle, none]
  rfl

theorem chronicle_of_some {deed : Deed} (some : machine.deed? = some deed)
    (history : List Deed) :
    machine.chronicle history = deed :: history := by
  rw [chronicle, some]
  rfl

end Machine

/-! ## Fetches -/

/-- The unit that the job of a cache comes to is its query, and the cache is open. -/
theorem Engine.of_unit?_cache
    {engine : Engine} {id : Nat} {unit : WorkUnit}
    (prepared : engine.unit? id .cache = some unit) :
    ∃ cache, engine.caches.get? id = some cache ∧ cache.isClosed = false ∧
      unit = ⟨cache.table, cache.descriptor.mode, .query cache.descriptor⟩ := by
  rw [Engine.unit?, Option.bind_eq_some_iff] at prepared
  rcases prepared with ⟨cache, held, made⟩
  rw [ItemCache.unit?] at made
  split at made
  · contradiction
  · next isOpen => exact ⟨cache, held, by simpa using isOpen, (Option.some.inj made).symm⟩

/-- A fetch does not erase. -/
theorem ItemCache.reads (cache : ItemCache) : cache.descriptor.projection ≠ .erase :=
  nofun

/-- A unit of a query that does not erase leaves the store open, and answers on what it finds. -/
theorem Engine.runUnit_query
    {engine : Engine} (sound : engine.store.Sound) {descriptor : Descriptor}
    (reads : descriptor.projection ≠ .erase) (table : String) (clock : Nat) :
    let ran := engine.runUnit ⟨table, descriptor.mode, .query descriptor⟩ clock
    (∃ monitor now,
        ran.2 = { engine with store := engine.store.opened, monitor := monitor, clock := now }) ∧
      ∀ outcome, ran.1 = .ok outcome → ∃ answer, outcome = .result answer ∧
        descriptor.compiled? engine.store.opened.tables table = some answer := by
  intro ran
  rcases engine.runUnit_eq ⟨table, descriptor.mode, .query descriptor⟩ clock with
    ⟨attempted, monitor, now, after⟩
  rw [Store.attempt_query sound reads] at after
  refine ⟨⟨monitor, now, after⟩, ?_⟩
  intro outcome succeeded
  have result : (engine.runUnit ⟨table, descriptor.mode, .query descriptor⟩ clock).1 =
      .ok outcome := succeeded
  rw [result] at attempted
  exact Store.attempt_query_answers attempted.symm

/-- The cache of a number shows the table that it fetches from, if its id field has a name. -/
def Engine.ShowsCache (engine : Engine) (id : Nat) : Prop :=
  ∃ cache table, engine.caches.get? id = some cache ∧
    engine.store.tables.get? cache.table = some table ∧
    (cache.idField.isEmpty = false → cache.Shows table)

namespace Machine

variable {machine : Machine}

/-- A cache that is given records holds them by their ids, and is otherwise what it was. -/
theorem get?_refill
    {id : Nat} {cache : ItemCache} (held : machine.engine.caches.get? id = some cache)
    (records : List Record) :
    (machine.refill id records).engine.caches.get? id =
      some { cache with items := Items.collect cache.idField records, waiting := [] } := by
  simp only [refill, held]
  show ((machine.engine.modifyCache id _).caches.get? id) = _
  rw [Engine.get?_modifyCache, if_pos rfl, held]
  rfl

/-- A step that is a fetch runs the unit of an open cache, the first in the queue. -/
theorem of_deed?_fetched
    {id : Nat} {succeeded : Bool} (fetched : machine.deed? = some (.fetched id succeeded)) :
    ∃ ran rest clock waiting cache,
      machine.agenda = .drain ran none :: rest ∧
        machine.engine.queue = .unit id .cache clock :: waiting ∧
        machine.engine.caches.get? id = some cache ∧ cache.isClosed = false ∧
        (({ machine.engine with queue := waiting } : Engine).runUnit
          ⟨cache.table, cache.descriptor.mode, .query cache.descriptor⟩ clock).1.isOk =
            succeeded := by
  rw [deed?] at fetched
  split at fetched
  · next ran rest executor clock waiting agenda queue =>
      rcases Option.map_eq_some_iff.mp fetched with ⟨unit, prepared, same⟩
      simp only [Deed.fetched.injEq] at same
      rcases same with ⟨rfl, outcome⟩
      rcases Engine.of_unit?_cache prepared with ⟨cache, held, isOpen, rfl⟩
      exact ⟨ran, rest, clock, waiting, cache, agenda, queue, held, isOpen, outcome⟩
  · rcases Option.bind_eq_some_iff.mp fetched with ⟨found, _, tracks⟩
    split at tracks <;> simp at tracks
  · contradiction

/--
A fetch that succeeded has run the query of its cache on the table, and the next step gives
the cache what it has answered.
-/
theorem refilled_of_fetched
    (sound : machine.engine.store.Sound) {id : Nat}
    (fetched : machine.deed? = some (.fetched id true)) :
    ∃ cache table answer middle after,
      machine.engine.caches.get? id = some cache ∧
        machine.engine.store.opened.tables.get? cache.table = some table ∧
        (Work.runOn cache.descriptor.run ⟨table, .begin cache.table cache.descriptor.mode⟩).1 =
          .ok answer ∧
        machine.step? = some middle ∧ middle.step? = some after ∧
        after.engine.store.tables = machine.engine.store.opened.tables ∧
        after.engine.caches.get? id = some { cache with
          items := Items.collect cache.idField (answer.records?.getD []), waiting := [] } := by
  rcases of_deed?_fetched fetched with
    ⟨ran, rest, clock, waiting, cache, agenda, queue, held, isOpen, succeeded⟩
  let begun : Engine := { machine.engine with queue := waiting }
  let working : Machine := { machine with agenda := rest }
  let unit : WorkUnit := ⟨cache.table, cache.descriptor.mode, .query cache.descriptor⟩
  have prepared : begun.unit? id .cache = some unit := by
    show (machine.engine.caches.get? id).bind ItemCache.unit? = _
    rw [held]
    simp only [Option.bind_some, ItemCache.unit?, isOpen]
    rfl
  have soundBegun : begun.store.Sound := sound
  rcases Engine.runUnit_query soundBegun cache.reads cache.table clock with
    ⟨⟨monitor, now, worked⟩, answers⟩
  cases outcome : (begun.runUnit unit clock).1 with
  | error failure =>
      rw [outcome] at succeeded
      contradiction
  | ok answered =>
      rcases answers answered outcome with ⟨answer, rfl, compiled⟩
      rcases Descriptor.of_compiled? compiled with ⟨table, heldTable, answeredTable⟩
      let worker : Engine := (begun.runUnit unit clock).2
      have workerMade : worker = _ := worked
      let records := answer.records?.getD []
      let middle : Machine := (working.become (worker.release id)).next
        [.refill id records, .flush, .drain (ran + 1) none]
      let following : Machine :=
        { middle with agenda := [.flush, .drain (ran + 1) none] ++ rest }
      have stepped : machine.step? = some middle := by
        have queueNow : working.engine.queue = .unit id .cache clock :: waiting := queue
        rw [step?, agenda]
        show some (working.drain ran none) = some middle
        rw [drain_unit queueNow, runUnit_of_ok (working.become begun) prepared outcome]
        rfl
      have heldWorker : following.engine.caches.get? id = some cache := by
        show worker.caches.get? id = some cache
        rw [workerMade]
        exact held
      refine ⟨cache, table, answer, middle, following.refill id records, held, heldTable,
        answeredTable, stepped, rfl, ?_, get?_refill heldWorker records⟩
      have same : (following.refill id records).engine.store = worker.store := by
        simp only [refill, heldWorker]
        rfl
      rw [same, workerMade]

/--
After a fetch that succeeded and the step that gives the cache its records, the cache shows
its table.
-/
theorem shows_of_fetched
    (keyed : machine.engine.store.Keyed) {id : Nat}
    (fetched : machine.deed? = some (.fetched id true)) :
    ∃ middle after, machine.step? = some middle ∧ middle.step? = some after ∧
      after.engine.ShowsCache id := by
  rcases refilled_of_fetched keyed.sound fetched with
    ⟨cache, table, answer, middle, after, _, heldTable, answered, first, second, tables, held⟩
  have keyedAfter := keyed_step (keyed_step keyed first) second
  rw [← tables] at heldTable
  refine ⟨middle, after, first, second, _, table, held, heldTable, ?_⟩
  intro named
  exact ItemCache.shows_of_answer named (keyedAfter.sound.wellFormed.rows heldTable)
    (keyedAfter.keys heldTable) answered rfl

end Machine

end LiveTable
