import LiveTable.Proofs.Engine.Convergence
import LiveTable.Proofs.Engine.Upkeep

/-!
# Caches show their tables

A machine carries out one command after another.  Whatever is asked of it, a cache shows its
table after each fetch of it that succeeded.

If nothing is asked but what keeps caches filled, every open cache is followed up at each
step.  So in a settled machine, in which nothing waits in the queue and no batch and no
fetch is on its way, a cache shows its table as it is now, as long as it is up to date by
its own deeds.  Fetches that were rejected because one waited already are not missed.
-/

set_option autoImplicit false

namespace LiveTable

/-- Whether an activity passes on a batch, or the records of a fetch. -/
def Activity.carries : Activity → Bool
  | .tell _ _ | .dispatch _ _ | .visit _ _ | .alert _ _ | .refill _ _ => true
  | _ => false

theorem Activity.AlertsCache.carries
    {generation id : Nat} {table : String} {activity : Activity}
    (alerts : activity.AlertsCache generation id table) :
    activity.carries = true := by
  cases activity with
  | tell | dispatch | visit | alert => rfl
  | _ => exact alerts.elim

theorem Activity.isRefill_of_still
    {activity : Activity} (still : activity.carries = false) :
    activity.isRefill = false := by
  cases activity with
  | refill id records => contradiction
  | _ => rfl

/-- A command that keeps caches filled, and that nothing reacts to. -/
theorem Command.Fetching.of_silent
    {command : Command} (fetching : command.isFetching) (silent : command.reaction? = none) :
    command.Fetching := by
  refine .intro fetching ?_
  intro reaction reacts
  rw [silent] at reacts
  contradiction

namespace Machine

variable {machine after : Machine} {history : List Deed}

/-! ## One command after another -/

/--
The machines that come up while an engine is asked commands of a kind, one after the other,
each with the deeds so far.
-/
inductive OnTheWay (Asked : Command → Prop) (first : Engine) : Machine → List Deed → Prop where
  | start : OnTheWay Asked first first.idle []
  | call {machine : Machine} {history : List Deed} {command : Command}
      (way : OnTheWay Asked first machine history) (finished : machine.agenda = [])
      (asked : Asked command) :
      OnTheWay Asked first (Machine.start machine.engine command) history
  | step {machine after : Machine} {history : List Deed}
      (way : OnTheWay Asked first machine history) (stepped : machine.step? = some after) :
      OnTheWay Asked first after (machine.chronicle history)

/-- Whatever is asked, the rows of the store stand under keys that agree with their records. -/
theorem OnTheWay.keyed
    {Asked : Command → Prop} {name : String} {schema : StoreSchema} {config : Config}
    (way : OnTheWay Asked (.create name schema config) machine history) :
    machine.engine.store.Keyed := by
  induction way with
  | start => exact Store.ofSchema_keyed name schema
  | call _ _ _ ih => exact ih
  | step _ stepped ih => exact keyed_step ih stepped

theorem idle_tended (name : String) (schema : StoreSchema) (config : Config) :
    (Engine.create name schema config).idle.Tended [] := by
  apply Tended.of_usual (Engine.create_arranged name schema config) usual_nil
  · exact fun _ member => nomatch member
  · exact fun held => nomatch held

/-- A machine that has finished may be asked the next command. -/
theorem Tended.start
    {command : Command} (tended : machine.Tended history) (finished : machine.agenda = [])
    (fetching : command.Fetching) :
    (Machine.start machine.engine command).Tended history := by
  let started : Machine := .start machine.engine command
  have arranged : started.engine.Arranged := tended.arranged
  have usual : Usual started.agenda := usual_cons fetching usual_nil
  apply Tended.of_usual arranged usual tended.deeds
  intro id cache held isOpen
  cases tended.followed held isOpen with
  | awaited awaits => exact .awaited awaits
  | published waits touched => exact .published waits touched
  | alerted due alerts =>
      rw [finished] at due
      contradiction
  | stale stale => exact .stale stale
  | answered answered holds =>
      refine .answered answered ?_
      rw [upcomingItems_of_usual usual, ← holds, upcomingItems, finished]

theorem OnTheWay.tended
    {name : String} {schema : StoreSchema} {config : Config}
    (way : OnTheWay Command.Fetching (.create name schema config) machine history) :
    machine.Tended history := by
  induction way with
  | start => exact idle_tended name schema config
  | call _ finished fetching ih => exact ih.start finished fetching
  | step _ stepped ih => exact ih.step stepped

/-! ## At rest -/

/-- Nothing waits in the queue, and no batch and no fetch is on its way. -/
structure Settled (machine : Machine) : Prop where
  queue : machine.engine.queue = []
  outbox : machine.engine.store.outbox = []
  agenda : ∀ activity ∈ machine.agenda, activity.carries = false

/-- In a tended machine that is settled, a cache that is up to date shows its table. -/
theorem Tended.shows
    (tended : machine.Tended history) (keyed : machine.engine.store.Keyed)
    (settled : machine.Settled) {id : Nat} {cache : ItemCache}
    (held : machine.engine.caches.get? id = some cache) (isOpen : cache.isClosed = false)
    (upToDate : Deed.upToDate history id = true) :
    machine.engine.ShowsCache id := by
  cases tended.followed held isOpen with
  | awaited awaits =>
      rcases awaits with ⟨clock, waits⟩
      rw [settled.queue] at waits
      contradiction
  | published waits touched =>
      rw [settled.outbox] at waits
      contradiction
  | alerted due alerts =>
      have carries := alerts.carries
      rw [settled.agenda _ due] at carries
      contradiction
  | stale stale =>
      rw [upToDate] at stale
      contradiction
  | answered answered holds =>
      rcases Descriptor.of_compiled? answered with ⟨table, heldTable, answeredTable⟩
      refine ⟨cache, table, held, heldTable, ?_⟩
      intro named
      rw [upcomingItems_of_not_refill] at holds
      · exact ItemCache.shows_of_answer named (keyed.sound.wellFormed.rows heldTable)
          (keyed.keys heldTable) answeredTable holds
      · intro activity head
        exact Activity.isRefill_of_still (settled.agenda activity (List.mem_of_head? head))

/-! ## Runs -/

/-- A machine after a number of steps, or at its end, with the deeds until then. -/
def advance : Nat → Machine × List Deed → Machine × List Deed
  | 0, state => state
  | limit + 1, state =>
    match state.1.step? with
    | none => state
    | some next => advance limit (next, state.1.chronicle state.2)

/-- Asks the next command of a machine that has finished. -/
def ask (state : Machine × List Deed) (command : Command) : Machine × List Deed :=
  if state.1.agenda.isEmpty then (.start state.1.engine command, state.2) else state

/-- Carries out commands one after another, each within a number of steps. -/
def carryOut (limit : Nat) (first : Engine) (commands : List Command) : Machine × List Deed :=
  commands.foldl (fun state command => advance limit (ask state command)) (first.idle, [])

variable {Asked : Command → Prop} {first : Engine}

theorem OnTheWay.advance
    (limit : Nat) {state : Machine × List Deed} (way : OnTheWay Asked first state.1 state.2) :
    OnTheWay Asked first (advance limit state).1 (advance limit state).2 := by
  induction limit generalizing state with
  | zero => exact way
  | succ limit ih =>
      rw [Machine.advance]
      split
      · exact way
      · next next stepped => exact ih (way.step stepped)

theorem OnTheWay.ask
    {state : Machine × List Deed} (way : OnTheWay Asked first state.1 state.2) {command : Command}
    (asked : Asked command) :
    OnTheWay Asked first (ask state command).1 (ask state command).2 := by
  rw [Machine.ask]
  split
  · next finished => exact way.call (List.isEmpty_iff.mp finished) asked
  · exact way

theorem OnTheWay.carryOut
    (limit : Nat) (commands : List Command) (asked : ∀ command ∈ commands, Asked command) :
    OnTheWay Asked first (carryOut limit first commands).1 (carryOut limit first commands).2 := by
  rw [Machine.carryOut]
  generalize initially : (first.idle, ([] : List Deed)) = state
  have way : OnTheWay Asked first state.1 state.2 := by
    rw [← initially]
    exact .start
  clear initially
  -- The commands are carried out from any state on the way.
  induction commands generalizing state with
  | nil => exact way
  | cons command rest ih =>
      apply ih
      · exact fun other member => asked other (List.mem_cons_of_mem _ member)
      · exact (way.ask (asked command List.mem_cons_self)).advance limit

/-! ## Caches and their tables -/

/--
Caches show their tables.  Whatever is asked of a new engine, a fetch that succeeds and the
step that gives the cache its records leave it showing the table; and if nothing is asked
but what keeps caches filled, an open cache that is up to date shows its table whenever the
machine is settled.
-/
theorem caches_show_tables
    {name : String} {schema : StoreSchema} {config : Config} {machine : Machine}
    {history : List Deed} {id : Nat} :
    (OnTheWay (fun _ => True) (.create name schema config) machine history →
      machine.deed? = some (.fetched id true) →
      ∃ middle after, machine.step? = some middle ∧ middle.step? = some after ∧
        after.engine.ShowsCache id) ∧
    (OnTheWay Command.Fetching (.create name schema config) machine history →
      machine.Settled → ∀ cache, machine.engine.caches.get? id = some cache →
      cache.isClosed = false → Deed.upToDate history id = true →
      machine.engine.ShowsCache id) := by
  constructor
  · intro way fetched
    exact shows_of_fetched way.keyed fetched
  · intro way settled cache held isOpen upToDate
    exact way.tended.shows way.keyed settled held isOpen upToDate

/--
A record is put while a fetch of its id waits, and another fetch is rejected.  The run
fetches the cache from the empty table first, and once more after the record is there.
-/
theorem cache_shows_later_record :
    let first : Engine := .create "s" ⟨1, [⟨"t", "id", false, []⟩]⟩ .standard
    let asked : List Command :=
      [.cache (.create "c" "t" none), .cache (.track "c" [.integer 1]), .cache (.fetch "c"),
        .request (.submit (some "p") "t" (.put (.ofList [("id", .integer 1)]))),
        .cache (.fetch "c")]
    let fetching := advance 1 (ask (carryOut 30 first asked) .run)
    let settled := carryOut 30 first (asked ++ [.run])
    (∃ middle after, fetching.1.step? = some middle ∧ middle.step? = some after ∧
      after.engine.ShowsCache 1) ∧
    settled.1.engine.ShowsCache 1 ∧
    ∃ cache, settled.1.engine.caches.get? 1 = some cache ∧
      (cache.items.find? (.integer 1)).isSome := by
  intro first asked fetching settled
  have fetchings : ∀ command ∈ asked ++ [.run], command.Fetching := by
    have alone : ∀ command ∈ asked ++ [.run], command.isFetching ∧ command.reaction? = none := by
      subst asked
      simp [Command.isFetching, Command.reaction?, RequestCommand.isOneShot, Request.isOneShot]
    exact fun command member => .of_silent (alone command member).1 (alone command member).2
  have way : OnTheWay (fun _ => True) first fetching.1 fetching.2 :=
    ((OnTheWay.carryOut 30 asked fun _ _ => trivial).ask trivial).advance 1
  have wayFetching : OnTheWay Command.Fetching first settled.1 settled.2 := by
    apply OnTheWay.carryOut
    exact fetchings
  have fetched : fetching.1.deed? = some (.fetched 1 true) := by
    subst fetching asked first
    decide +kernel
  have atRest : settled.1.Settled := by
    have queue : settled.1.engine.queue.isEmpty := by
      subst settled asked first
      decide +kernel
    have outbox : settled.1.engine.store.outbox.isEmpty := by
      subst settled asked first
      decide +kernel
    have agenda : settled.1.agenda.isEmpty := by
      subst settled asked first
      decide +kernel
    refine ⟨List.isEmpty_iff.mp queue, List.isEmpty_iff.mp outbox, ?_⟩
    rw [List.isEmpty_iff.mp agenda]
    exact fun _ member => nomatch member
  have upToDate : Deed.upToDate settled.2 1 = true := by
    subst settled asked first
    decide +kernel
  have found : (settled.1.engine.caches.get? 1).any fun cache =>
      !cache.isClosed && (cache.items.find? (.integer 1)).isSome := by
    subst settled asked first
    decide +kernel
  rcases (Option.any_eq_true _ _).mp found with ⟨cache, held, holds⟩
  simp only [Bool.and_eq_true, Bool.not_eq_true'] at holds
  exact ⟨caches_show_tables.1 way fetched,
    caches_show_tables.2 wayFetching atRest cache held holds.1 upToDate,
    cache, held, holds.2⟩

/--
Two rows with one id, which the first gives as an integer and the second in floating point:
the fetch leaves the cache with the first record, although the second has the greater key.
-/
theorem fetch_finds_earlier_record :
    let first : Engine := .create "s" ⟨1, [⟨"t", "id", false, []⟩]⟩ .standard
    let asked : List Command :=
      [.request (.submit none "t" (.put (.ofList [("id", .integer 1), ("g", .integer 1)]))),
        .request (.submit none "t"
          (.put (.ofList [("id", .integer 2), ("g", .float (.ofInt 1))]))),
        .cache (.create "c" "t" (some "g")), .cache (.track "c" [.integer 1]),
        .cache (.fetch "c")]
    let fetching := advance 1 (ask (carryOut 30 first asked) .run)
    OnTheWay (fun _ => True) first fetching.1 fetching.2 ∧
      fetching.1.deed? = some (.fetched 3 true) ∧
      ∃ middle after cache table row,
        fetching.1.step? = some middle ∧ middle.step? = some after ∧
        after.engine.caches.get? 3 = some cache ∧
        after.engine.store.tables.get? cache.table = some table ∧
        cache.tracked.contains (.integer 1) ∧
        row ∈ ItemCache.rowsFor cache.idField table (.integer 1) ∧
        (∀ other ∈ ItemCache.rowsFor cache.idField table (.integer 1), other.1.notAfter row.1) ∧
        cache.items.find? (.integer 1) ≠ some row.2 := by
  intro first asked fetching
  have way : OnTheWay (fun _ => True) first fetching.1 fetching.2 :=
    ((OnTheWay.carryOut 30 asked fun _ _ => trivial).ask trivial).advance 1
  have fetched : fetching.1.deed? = some (.fetched 3 true) := by
    subst fetching asked first
    decide +kernel
  refine ⟨way, fetched, ?_⟩
  have keyed : fetching.1.engine.store.Keyed := way.keyed
  rcases refilled_of_fetched keyed.sound fetched with
    ⟨cache, table, answer, middle, after, held, heldTable, answered, toMiddle, toAfter, tables,
      filled⟩
  have verdict : (fetching.1.engine.caches.get? 3).any fun cache =>
      (fetching.1.engine.store.opened.tables.get? cache.table).any fun table =>
        let rows := cache.selected table
        let entries := Items.identified cache.idField (rows.map Prod.snd)
        let own := ItemCache.rowsFor cache.idField table (.integer 1)
        !cache.idField.isEmpty && cache.tracked.contains (.integer 1) &&
          decide (rows.Pairwise fun a b => (Table.rowOrder cache.idField a b).isLE) &&
          decide (entries.Pairwise fun a b => a.1.notAfter b.1) &&
          own.any fun row => own.all (·.1.notAfter row.1) &&
            !((Items.find? ⟨Items.dropRepeated entries⟩ (.integer 1)).any (·.same row.2)) := by
    subst fetching asked first
    decide +kernel
  simp only [held, heldTable, Option.any_some, Bool.and_eq_true, Bool.not_eq_true',
    decide_eq_true_eq, List.any_eq_true, List.all_eq_true] at verdict
  rcases verdict with ⟨⟨⟨⟨named, tracked⟩, rows⟩, ids⟩, row, member, greatest, different⟩
  rw [← tables] at heldTable
  refine ⟨middle, after, _, table, row, toMiddle, toAfter, filled, heldTable, tracked, member,
    greatest, ?_⟩
  have ascending : table.rows.Ascending := by
    have keyedAfter := keyed_step (keyed_step keyed toMiddle) toAfter
    exact keyedAfter.sound.wellFormed.rows heldTable
  have collected := ItemCache.collect_of_fetch named ascending answered rows ids
  intro found
  change (Items.collect cache.idField (answer.records?.getD [])).find? (.integer 1) = _ at found
  rw [collected] at found
  rw [found, Option.any_some, Record.same, Value.same_refl] at different
  exact Bool.noConfusion different

end Machine

end LiveTable
