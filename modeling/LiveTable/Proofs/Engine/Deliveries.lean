import LiveTable.Proofs.Engine.Foundation

/-!
# One delivery at a time

Batches are delivered by at most one delivery at a time: an engine is marked as flushing
exactly as long as a delivery is on the agenda.  The mark is part of what an engine rests
on, and of what reaches that only a flush and a delivery touch it.  Every activity only puts
others in front of the agenda, among which are no deliveries but those that a flush begins
and a delivery goes on with.

So between two commands nothing is being delivered, whatever was asked before.
-/

set_option autoImplicit false

namespace LiveTable

/-! ## What leaves the mark alone -/

namespace Engine

variable (engine : Engine)

theorem isFlushing_startTiming : engine.startTiming.2.isFlushing = engine.isFlushing := by
  rcases engine.startTiming_eq with ⟨monitor, is⟩
  rw [is]

theorem isFlushing_finishTiming (timing? : Option Nat) :
    (engine.finishTiming timing?).isFlushing = engine.isFlushing := by
  rcases engine.finishTiming_eq timing? with ⟨monitor, is⟩
  rw [is]

theorem isFlushing_elapse (clock : Nat) (answers : List Answer) :
    (engine.elapse clock answers).isFlushing = engine.isFlushing :=
  isFlushing_of_foundation (engine.foundation_elapse clock answers)

theorem isFlushing_transact (unit : WorkUnit) (clock : Nat) :
    (engine.transact unit clock).2.isFlushing = engine.isFlushing := by
  rw [transact]
  split
  · rfl
  · rw [isFlushing_elapse]

theorem isFlushing_runUnit (unit : WorkUnit) (clock : Nat) :
    (engine.runUnit unit clock).2.isFlushing = engine.isFlushing := by
  rw [runUnit, isFlushing_finishTiming, isFlushing_transact, isFlushing_startTiming]

end Engine

/-! ## Activities put others in front -/

/-- The delivery of the next batch. -/
def Activity.isDelivery : Activity → Bool
  | .deliver _ => true
  | _ => false

/-- Whether an activity begins a delivery or goes on with one. -/
def Activity.delivers : Activity → Bool
  | .flush | .deliver _ => true
  | _ => false

/-- Whether an activity begins a delivery, goes on with one, or passes a batch to a listener. -/
def Activity.relays : Activity → Bool
  | .flush | .deliver _ | .tell _ _ => true
  | _ => false

/-- Whether an activity is part of a delivery: it delivers, or a listener is given a batch. -/
def Activity.isFeeding : Activity → Bool
  | .deliver _ | .tell _ _ | .call _ (.changes _) => true
  | _ => false

theorem Activity.delivers_of_relays {activity : Activity} (other : activity.relays = false) :
    activity.delivers = false := by
  cases activity <;> first | rfl | contradiction

theorem Activity.isDelivery_of_isFeeding {activity : Activity}
    (other : activity.isFeeding = false) : activity.isDelivery = false := by
  cases activity with
  | deliver delivered => contradiction
  | _ => rfl

namespace Machine

variable {machine after : Machine}

/-! ### The mark of a delivery -/

theorem isFlushing_performStore (command : StoreCommand) :
    (machine.performStore command).engine.isFlushing = machine.engine.isFlushing := by
  cases command with
  | ensureOpen =>
      rw [performStore]
      split <;> rfl
  | close => rfl
  | block reason? => rfl
  | transact mode table steps => exact Engine.isFlushing_elapse _ _ _

theorem isFlushing_perform (command : Command) :
    (machine.perform command).engine.isFlushing = machine.engine.isFlushing := by
  cases founded : command.reachesFoundation with
  | false => exact Engine.isFlushing_of_foundation (foundation_perform founded)
  | true =>
      cases command with
      | store command => exact isFlushing_performStore command
      | feed command => cases command <;> rfl
      | clock command => cases command <;> rfl
      | _ => contradiction

theorem isFlushing_runUnit (executor : Nat) (job : Job) (clock ran : Nat) :
    (machine.runUnit executor job clock ran).engine.isFlushing = machine.engine.isFlushing := by
  simp only [runUnit]
  split
  · rfl
  · next unit _ => split <;> exact machine.engine.isFlushing_runUnit unit clock

theorem isFlushing_drain (ran : Nat) (failure? : Option Error) :
    (machine.drain ran failure?).engine.isFlushing = machine.engine.isFlushing := by
  cases failure? with
  | some failure => rfl
  | none =>
      simp only [drain]
      split
      · rfl
      · next task rest _ =>
          cases task with
          | unit executor job clock => exact isFlushing_runUnit _ _ _ _
          | routine routine => exact Engine.isFlushing_of_foundation (foundation_runRoutine _ _)

/-- An activity that neither begins a delivery nor goes on with one leaves the mark alone. -/
theorem isFlushing_act
    (machine : Machine) (activity : Activity) (other : activity.delivers = false) :
    (machine.act activity).engine.isFlushing = machine.engine.isFlushing := by
  cases founded : activity.reachesFoundation with
  | false => exact Engine.isFlushing_of_foundation (foundation_act founded)
  | true =>
      cases activity with
      | perform command => exact isFlushing_perform command
      | drain ran failure? => exact isFlushing_drain ran failure?
      | _ => contradiction

/-! ### What comes in front of the agenda -/

/-- Activities that are no part of a delivery come in front of the agenda. -/
def Adds (before after : Machine) : Prop :=
  ∃ new, after.agenda = new ++ before.agenda ∧ ∀ found ∈ new, found.isFeeding = false

theorem adds_nothing (agenda : after.agenda = machine.agenda) : machine.Adds after :=
  ⟨[], agenda, by simp⟩

theorem adds_say (reply : Reply) : machine.Adds (machine.say reply) :=
  adds_nothing rfl

theorem adds_next
    {engine : Engine} {new : List Activity} (none : ∀ found ∈ new, found.isFeeding = false) :
    machine.Adds ((machine.become engine).next new) :=
  ⟨new, rfl, none⟩

theorem adds_holding
    {engine : Engine} (held : Held)
    {new : List Activity} (none : ∀ found ∈ new, found.isFeeding = false) :
    machine.Adds ((machine.become engine).holding held new) := by
  refine ⟨new ++ [.letGo held], rfl, ?_⟩
  simp only [List.mem_append, List.mem_singleton]
  rintro found (before | rfl)
  · exact none found before
  · rfl

theorem isFeeding_script (reaction : Reaction Command) :
    ∀ found ∈ reaction.script, found.isFeeding = false := by
  intro found member
  rcases List.mem_flatMap.mp member with ⟨command, _, inner⟩
  simp only [List.mem_cons, List.not_mem_nil, or_false] at inner
  rcases inner with rfl | rfl <;> rfl

theorem isFeeding_map {α : Type} {items : List α} {activity : α → Activity}
    (none : ∀ item, (activity item).isFeeding = false) :
    ∀ found ∈ items.map activity, found.isFeeding = false := by
  intro found member
  rcases List.mem_map.mp member with ⟨item, _, rfl⟩
  exact none item

theorem isFeeding_map_concat {α : Type} {items : List α} {activity : α → Activity} {last : Activity}
    (none : ∀ item, (activity item).isFeeding = false) (ends : last.isFeeding = false) :
    ∀ found ∈ items.map activity ++ [last], found.isFeeding = false := by
  simp only [List.mem_append, List.mem_singleton]
  rintro found (before | rfl)
  · exact isFeeding_map none found before
  · exact ends

theorem adds_call (callback : Callback) (notice : Notice) :
    machine.Adds (machine.call callback notice) := by
  simp only [call]
  split
  · exact ⟨_, rfl, isFeeding_script _⟩
  · exact adds_nothing rfl

theorem adds_tell_registry (generation : Nat) (batch : List Change) :
    machine.Adds (machine.tell (.registry generation) batch) := by
  rw [tell]
  split
  · exact adds_holding _ (by simp [Activity.isFeeding])
  · exact adds_nothing rfl

theorem adds_visit (generation : Nat) (table : String) :
    machine.Adds (machine.visit generation table) := by
  rw [visit]
  split
  · exact adds_next (isFeeding_map fun _ => rfl)
  · exact adds_nothing rfl

theorem adds_alert (watcher : Watcher) (table : String) :
    machine.Adds (machine.alert watcher table) := by
  cases watcher with
  | callback callback => exact adds_next (by simp [Activity.isFeeding])
  | _ => exact adds_nothing rfl

/-! ### Commands -/

theorem adds_performFeed (command : FeedCommand Command) :
    machine.Adds (machine.performFeed command) := by
  cases command with
  | flush => exact adds_holding _ (by simp [Activity.isFeeding])
  | _ => exact adds_nothing rfl

theorem adds_performRegistry (command : RegistryCommand Command) :
    machine.Adds (machine.performRegistry command) := by
  cases command with
  | dispatch batch => exact adds_holding _ (by simp [Activity.isFeeding])
  | _ => exact adds_nothing rfl

theorem adds_performQueue (command : QueueCommand) :
    machine.Adds (machine.performQueue command) := by
  cases command with
  | push routine => exact adds_nothing rfl
  | drain => exact adds_next (by simp [Activity.isFeeding])

theorem adds_performStore (command : StoreCommand) :
    machine.Adds (machine.performStore command) := by
  cases command with
  | ensureOpen =>
      rw [performStore]
      split <;> exact adds_nothing rfl
  | _ => exact adds_nothing rfl

theorem adds_performClock (command : ClockCommand) :
    machine.Adds (machine.performClock command) := by
  cases command <;> exact adds_nothing rfl

theorem adds_performRequest (command : RequestCommand) :
    machine.Adds (machine.performRequest command) := by
  cases command with
  | submit name? table request =>
      cases name? with
      | none => exact adds_next (by simp [Activity.isFeeding])
      | some name => exact adds_nothing rfl
  | take name =>
      rw [performRequest]
      split <;> exact adds_nothing rfl
  | resolve name =>
      rw [performRequest]
      split
      · exact adds_say _
      · exact adds_next (by simp [Activity.isFeeding])

theorem adds_performExecutor (command : ExecutorCommand Command) :
    machine.Adds (machine.performExecutor command) := by
  cases command <;> exact adds_nothing rfl

theorem adds_performWatch (command : WatchCommand Command) :
    machine.Adds (machine.performWatch command) := by
  cases command with
  | create name table reaction => exact adds_nothing rfl
  | stop name =>
      rw [performWatch]
      split <;> exact adds_nothing rfl

theorem adds_withBinding
    {name : String} {go : Nat → Binding → Machine}
    (goes : ∀ id binding, machine.Adds (go id binding)) :
    machine.Adds (machine.withBinding name go) := by
  rw [withBinding]
  split
  · exact goes _ _
  · exact adds_say _

theorem adds_performIssued (command : BindingCommand Command) :
    machine.Adds (machine.performIssued command) := by
  cases command with
  | create name table descriptor => exact adds_nothing rfl
  | fetch name table? descriptor? reaction =>
      exact adds_withBinding fun id binding =>
        adds_holding _ (isFeeding_map_concat (fun _ => rfl) rfl)
  | _ => exact adds_withBinding fun id binding => adds_nothing rfl

theorem adds_performBinding (command : BindingCommand Command) :
    machine.Adds (machine.performBinding command) :=
  @adds_performIssued (machine.become machine.engine.allocate.2) _

theorem adds_withCache
    {name : String} {go : Nat → ItemCache → Machine}
    (goes : ∀ id cache, machine.Adds (go id cache)) :
    machine.Adds (machine.withCache name go) := by
  rw [withCache]
  split
  · exact goes _ _
  · exact adds_say _

theorem adds_performCache (command : CacheCommand Command) :
    machine.Adds (machine.performCache command) := by
  cases command with
  | create name table idField? => exact adds_nothing rfl
  | request name item reaction? =>
      apply adds_withCache
      intro id cache
      dsimp only
      split
      · exact adds_holding _ (isFeeding_map_concat (fun _ => rfl) rfl)
      · exact adds_nothing rfl
  | _ => exact adds_withCache fun id cache => adds_nothing rfl

theorem adds_perform (command : Command) : machine.Adds (machine.perform command) := by
  cases command with
  | inquire inquiry => exact adds_say _
  | feed command => exact adds_performFeed command
  | registry command => exact adds_performRegistry command
  | queue command => exact adds_performQueue command
  | store command => exact adds_performStore command
  | clock command => exact adds_performClock command
  | request command => exact adds_performRequest command
  | executor command => exact adds_performExecutor command
  | watch command => exact adds_performWatch command
  | binding command => exact adds_performBinding command
  | cache command => exact adds_performCache command
  | run => exact adds_next (by simp [running, Activity.isFeeding])
  | drop name => exact adds_nothing rfl

/-! ### The queue -/

theorem isFeeding_succeed (executor : Nat) (outcome : Outcome) (job : Job) :
    ∀ found ∈ job.succeed executor outcome, found.isFeeding = false := by
  cases job <;> cases outcome <;> simp [Job.succeed, Activity.isFeeding]

theorem isFeeding_fail (executor : Nat) (failure : OperationFailure) (job : Job) :
    ∀ found ∈ job.fail executor failure, found.isFeeding = false := by
  cases job with
  | callback unit? callback reportsFailure =>
      cases reportsFailure <;> simp [Job.fail, Activity.isFeeding]
  | _ => simp [Job.fail, Activity.isFeeding]

theorem adds_runUnit (executor : Nat) (job : Job) (clock ran : Nat) :
    machine.Adds (machine.runUnit executor job clock ran) := by
  simp only [runUnit]
  split
  · exact adds_next (by simp [Activity.isFeeding])
  · split
    · refine adds_next ?_
      simp only [List.mem_append, List.mem_cons, List.not_mem_nil, or_false]
      rintro found (told | rfl | rfl)
      · exact isFeeding_succeed _ _ _ found told
      · rfl
      · rfl
    · refine adds_next ?_
      simp only [List.mem_append, List.mem_cons, List.not_mem_nil, or_false]
      rintro found (told | rfl | rfl)
      · exact isFeeding_fail _ _ _ found told
      · rfl
      · rfl

theorem adds_runRoutine (routine : Routine) (ran : Nat) :
    machine.Adds (machine.runRoutine routine ran) := by
  refine ⟨_, rfl, ?_⟩
  split <;> simp [Activity.isFeeding]

theorem adds_drain (ran : Nat) (failure? : Option Error) :
    machine.Adds (machine.drain ran failure?) := by
  cases failure? with
  | some failure => exact adds_say _
  | none =>
      simp only [drain]
      split
      · exact adds_say _
      · next task rest _ =>
          let working := machine.become { machine.engine with queue := rest }
          cases task with
          | unit executor job clock => exact @adds_runUnit working executor job clock (ran + 1)
          | routine routine => exact @adds_runRoutine working routine (ran + 1)

theorem adds_afterDrain : machine.Adds machine.afterDrain := by
  rw [afterDrain]
  split
  · exact adds_next (by simp [Activity.isFeeding])
  · exact adds_nothing rfl

/-! ### Requests, bindings and caches -/

theorem adds_takeOr
    {id : Nat} {otherwise : Machine → Machine} (adds : machine.Adds (otherwise machine)) :
    machine.Adds (machine.takeOr id otherwise) := by
  rw [takeOr]
  split
  · exact adds_nothing rfl
  · exact adds

theorem adds_rerun (id : Nat) : machine.Adds (machine.next (running ++ [.recheck id])) :=
  adds_next (by simp [running, Activity.isFeeding])

theorem adds_recheck (id : Nat) : machine.Adds (machine.recheck id) := by
  apply adds_takeOr
  split
  · exact adds_rerun id
  · exact adds_say _

theorem adds_refresh (id : Nat) (result : QueryResult) :
    machine.Adds (machine.refresh id result) := by
  simp only [refresh]
  split
  · exact adds_nothing rfl
  · split
    · exact adds_next (by simp [Activity.isFeeding])
    · exact adds_next (isFeeding_map_concat (fun _ => rfl) rfl)

theorem adds_serve (id : Nat) : machine.Adds (machine.serve id) := by
  simp only [serve]
  split
  · exact adds_nothing rfl
  · exact adds_next (isFeeding_map fun _ => rfl)

theorem adds_refill (id : Nat) (records : List Record) :
    machine.Adds (machine.refill id records) := by
  simp only [refill]
  split
  · exact adds_nothing rfl
  · exact adds_next (isFeeding_map_concat (fun _ => rfl) rfl)

theorem adds_serveItem (id : Nat) (item : Value) (callback : Callback) :
    machine.Adds (machine.serveItem id item callback) := by
  rw [serveItem]
  split
  · exact adds_nothing rfl
  · exact adds_next (by simp [Activity.isFeeding])

theorem adds_spread (id : Nat) : machine.Adds (machine.spread id) := by
  rw [spread]
  split
  · exact adds_nothing rfl
  · exact adds_next (isFeeding_map fun _ => rfl)

/-! ### Every activity -/

/-- An activity that relays no batch adds nothing that is part of a delivery. -/
theorem adds_act {activity : Activity} (other : activity.relays = false) :
    machine.Adds (machine.act activity) := by
  cases activity with
  | perform command => exact adds_perform command
  | answer reply => exact adds_say reply
  | call callback notice => exact adds_call callback notice
  | flush => contradiction
  | deliver delivered => contradiction
  | tell listener batch => contradiction
  | dispatch generation batch => exact adds_next (isFeeding_map fun _ => rfl)
  | visit generation table => exact adds_visit generation table
  | alert watcher table => exact adds_alert watcher table
  | drain ran failure? => exact adds_drain ran failure?
  | afterDrain => exact adds_afterDrain
  | resolve id => exact adds_takeOr (adds_rerun id)
  | recheck id => exact adds_recheck id
  | refresh binding result => exact adds_refresh binding result
  | serve binding => exact adds_serve binding
  | refill cache records => exact adds_refill cache records
  | serveItem cache item callback => exact adds_serveItem cache item callback
  | spread cache => exact adds_spread cache
  | _ => exact adds_nothing rfl

end Machine

/-! ## At most one delivery -/

/-- How many deliveries there are among activities. -/
def deliveries (activities : List Activity) : Nat :=
  activities.countP Activity.isDelivery

@[simp]
theorem deliveries_nil : deliveries [] = 0 :=
  rfl

@[simp]
theorem deliveries_append (first second : List Activity) :
    deliveries (first ++ second) = deliveries first + deliveries second :=
  List.countP_append

@[simp]
theorem deliveries_cons (activity : Activity) (rest : List Activity) :
    deliveries (activity :: rest) = deliveries rest + if activity.isDelivery then 1 else 0 :=
  List.countP_cons

theorem deliveries_of_none
    {activities : List Activity} (none : ∀ found ∈ activities, found.isDelivery = false) :
    deliveries activities = 0 :=
  List.countP_eq_zero.mpr fun found member => by simp [none found member]

namespace Machine

/-- An engine is marked as flushing exactly as long as a delivery is on the agenda. -/
def Balanced (machine : Machine) : Prop :=
  deliveries machine.agenda = if machine.engine.isFlushing then 1 else 0

variable {machine after : Machine}

theorem Adds.balanced (adds : machine.Adds after)
    (still : after.engine.isFlushing = machine.engine.isFlushing) (balanced : machine.Balanced) :
    after.Balanced := by
  rcases adds with ⟨new, agenda, none⟩
  have undelivered : deliveries new = 0 :=
    deliveries_of_none fun found member => Activity.isDelivery_of_isFeeding (none found member)
  rw [Balanced, agenda, deliveries_append, undelivered, Nat.zero_add, still]
  exact balanced

theorem Balanced.tell (balanced : machine.Balanced) (listener : Listener) (batch : List Change) :
    (machine.tell listener batch).Balanced := by
  cases listener with
  | registry generation =>
      have still := machine.isFlushing_act (.tell (.registry generation) batch) rfl
      exact (adds_tell_registry generation batch).balanced still balanced
  | callback callback =>
      show deliveries (.call callback (.changes batch) :: machine.agenda) =
        if machine.engine.isFlushing then 1 else 0
      rw [deliveries_cons]
      exact balanced

theorem Balanced.flush (balanced : machine.Balanced) : machine.flush.Balanced := by
  rw [Machine.flush]
  split
  · exact balanced
  · next idle =>
      rw [Balanced, if_neg idle] at balanced
      show deliveries (.deliver 0 :: machine.agenda) = 1
      simp [balanced, Activity.isDelivery]

/-- A delivery that comes next is the only one. -/
theorem Balanced.of_delivery
    {delivered : Nat} {rest : List Activity}
    (balanced : machine.Balanced) (agenda : machine.agenda = .deliver delivered :: rest) :
    machine.engine.isFlushing = true ∧ deliveries rest = 0 := by
  rw [Balanced, agenda, deliveries_cons] at balanced
  cases marked : machine.engine.isFlushing <;>
    simp [marked, Activity.isDelivery] at balanced ⊢
  exact balanced

theorem Balanced.deliver
    {delivered : Nat} {rest : List Activity}
    (balanced : machine.Balanced) (agenda : machine.agenda = .deliver delivered :: rest) :
    (Machine.deliver { machine with agenda := rest } delivered).Balanced := by
  have flushing := balanced.of_delivery agenda
  simp only [Machine.deliver]
  split
  · exact flushing.2
  · next batch waiting _ =>
      have told : ∀ found ∈ machine.engine.listeners.all.map (Activity.tell · batch),
          found.isDelivery = false := List.forall_mem_map.mpr fun _ _ => rfl
      show deliveries (_ ++ [.deliver (delivered + 1)] ++ rest) =
        if machine.engine.isFlushing then 1 else 0
      rw [deliveries_append, deliveries_append, deliveries_of_none told]
      simp [flushing, Activity.isDelivery]

/-- One step of a balanced machine leads to a balanced machine. -/
theorem Balanced.step
    (balanced : machine.Balanced) (stepped : machine.step? = some after) :
    after.Balanced := by
  rcases of_step? stepped with ⟨activity, rest, agenda, rfl⟩
  have remaining (other : activity.isDelivery = false) :
      Balanced { machine with agenda := rest } := by
    rw [Balanced, agenda, deliveries_cons, other] at balanced
    exact balanced
  cases activity with
  | flush => exact (remaining rfl).flush
  | deliver delivered => exact balanced.deliver agenda
  | tell listener batch => exact (remaining rfl).tell listener batch
  | _ => exact (adds_act rfl).balanced (isFlushing_act _ _ rfl) (remaining rfl)

end Machine

/-- Whatever was asked of an engine, it is delivering nothing between two commands. -/
theorem Engine.Reachable.not_flushing
    {first engine : Engine} (reachable : first.Reachable engine)
    (idle : first.isFlushing = false) :
    engine.isFlushing = false := by
  induction reachable with
  | start => exact idle
  | call _ called ih =>
      rcases Engine.of_call? called with ⟨last, ran, ended, _, rfl⟩
      have balanced : last.Balanced := by
        apply Machine.run?_preserves Machine.Balanced Machine.Balanced.step ?_ ran
        simp [Machine.Balanced, Machine.start, Activity.isDelivery, ih]
      rw [Machine.Balanced, ended] at balanced
      cases marked : last.engine.isFlushing with
      | false => rfl
      | true => simp [marked] at balanced

end LiveTable
