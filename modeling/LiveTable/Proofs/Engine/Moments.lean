import LiveTable.Proofs.Engine.Bystanders
import LiveTable.Proofs.Engine.Storage
import LiveTable.Proofs.Store.Commits

/-!
# Commits, deliveries and calls

The steps of a machine tell what happens to changes and to those who watch for them: a
transaction ends, a batch is delivered, a subscription begins or ends, a callback is called.
A history lists such moments, the latest first, whoever brought them about.

What a subscription is due can be read off a history: one notice for each batch with
changes of its table that was delivered while it was there.  What the outbox holds can be
read off as well: it is what has been committed and not delivered.
-/

set_option autoImplicit false

namespace LiveTable

/-- What can happen to changes and to those who watch for them. -/
inductive Moment where
  /-- A transaction has ended, with the changes that it has committed; none if it failed. -/
  | transaction (committed? : Option (List Change))
  /-- A batch has left the outbox for the listeners. -/
  | delivered (batch : List Change)
  /-- A callback has come to watch a table under a number of its own. -/
  | subscribed (id : Nat) (table : String)
  /-- The subscription of a number watches no longer. -/
  | ended (id : Nat)
  /-- The callback of a number was called. -/
  | called (id : Nat) (notice : Notice)

instance (batch : List Change) (name : String) : Decidable (Touches batch name) :=
  inferInstanceAs (Decidable (∃ change ∈ batch, change.table = name))

namespace Moment

/-- The batch that a moment adds to those that were committed. -/
def committed : Moment → List (List Change)
  | transaction committed? => Store.batchOf committed?
  | _ => []

/-- The batch that a moment adds to those that were delivered. -/
def passed : Moment → List (List Change)
  | delivered batch => [batch]
  | _ => []

/-- What the callback of a number is told in a moment. -/
def told (id : Nat) : Moment → List Notice
  | called target notice => if target = id then [notice] else []
  | _ => []

/-- The batches that transactions have committed, in the order of their commits. -/
def commits (history : List Moment) : List (List Change) :=
  history.reverse.flatMap committed

/-- The batches that have been delivered, in the order of their deliveries. -/
def deliveries (history : List Moment) : List (List Change) :=
  history.reverse.flatMap passed

/-- What the callback of a number was called with, in the order of the calls. -/
def calls (history : List Moment) (id : Nat) : List Notice :=
  history.reverse.flatMap (told id)

/-- The table that a subscription watches, from its beginning to its end. -/
def watched : List Moment → Nat → Option String
  | [], _ => none
  | subscribed new table :: earlier, id => if id = new then some table else watched earlier id
  | ended former :: earlier, id => if id = former then none else watched earlier id
  | _ :: earlier, id => watched earlier id

/--
What a subscription to a table is due, in order: the name of the table for each batch with
changes of it that was delivered while the subscription was there.
-/
def due (table : String) (id : Nat) : List Moment → List Notice
  | [] => []
  | delivered batch :: earlier =>
    due table id earlier ++
      if watched earlier id = some table ∧ Touches batch table then [.table table] else []
  | _ :: earlier => due table id earlier

variable (first later : List Moment) (id : Nat)

@[simp]
theorem commits_append : commits (later ++ first) = commits first ++ commits later := by
  simp [commits]

@[simp]
theorem deliveries_append : deliveries (later ++ first) = deliveries first ++ deliveries later := by
  simp [deliveries]

@[simp]
theorem calls_append : calls (later ++ first) id = calls first id ++ calls later id := by
  simp [calls]

end Moment

/-! ## What a step comes to -/

/-- The unit that is first in the queue, if it is needed. -/
def Engine.nextUnit? (engine : Engine) : Option WorkUnit :=
  match engine.queue with
  | .unit executor job _ :: _ => engine.unit? executor job
  | _ => none

/-- What carrying out a command comes to by itself; the latest moment comes first. -/
def Command.moments (engine : Engine) : Command → List Moment
  | .store (.transact mode table steps) =>
    [.transaction (engine.store.committed? mode table (OperationStep.performAll [] steps))]
  | .watch (.create name table _) =>
    (engine.handles name).watch?.toList.map .ended ++ [.subscribed engine.nextId table]
  | .watch (.stop name) | .drop name => (engine.handles name).watch?.toList.map .ended
  | _ => []

/-- What an activity comes to by itself. -/
def Activity.moments (engine : Engine) : Activity → List Moment
  | .perform command => command.moments engine
  | .call callback notice => [.called callback.id notice]
  | .deliver _ => engine.store.outbox.head?.toList.map .delivered
  | .drain _ none => engine.nextUnit?.toList.map fun unit =>
      .transaction (engine.store.opened.committed? unit.mode unit.table unit.request.perform)
  | _ => []

/-- Whether a moment is the beginning or the end of a subscription. -/
def Moment.isTurn : Moment → Bool
  | .subscribed _ _ | .ended _ => true
  | _ => false

/-- Whether an activity is a command by which subscriptions come and go. -/
def Activity.subscribes : Activity → Bool
  | .perform command => command.subscribes
  | _ => false

/-- Which moments an activity can come to. -/
inductive Activity.Brings (engine : Engine) : Activity → Moment → Prop where
  | transaction {activity : Activity} (reaches : activity.reachesStore)
      (committed? : Option (List Change)) : Brings engine activity (.transaction committed?)
  | delivery (delivered : Nat) (batch : List Change) :
      Brings engine (.deliver delivered) (.delivered batch)
  | beginning (name table : String) (reaction : Reaction Command) :
      Brings engine (.perform (.watch (.create name table reaction)))
        (.subscribed engine.nextId table)
  | ending {activity : Activity} (subscribes : activity.subscribes) (id : Nat) :
      Brings engine activity (.ended id)
  | call (callback : Callback) (notice : Notice) :
      Brings engine (.call callback notice) (.called callback.id notice)

theorem Activity.brings_of_mem
    {engine : Engine} {activity : Activity} {moment : Moment}
    (member : moment ∈ activity.moments engine) :
    activity.Brings engine moment := by
  have ending {former? : Option Nat} (subscribes : activity.subscribes)
      (among : moment ∈ former?.toList.map Moment.ended) : activity.Brings engine moment := by
    rcases List.mem_map.mp among with ⟨former, _, rfl⟩
    exact .ending subscribes former
  cases activity with
  | perform command =>
      cases command with
      | store command =>
          cases command with
          | transact mode table steps =>
              rw [List.mem_singleton.mp member]
              exact .transaction rfl _
          | _ => contradiction
      | watch command =>
          cases command with
          | create name table reaction =>
              rcases List.mem_append.mp member with former | new
              · exact ending rfl former
              · rw [List.mem_singleton.mp new]
                exact .beginning name table reaction
          | stop name => exact ending rfl member
      | drop name => exact ending rfl member
      | _ => contradiction
  | call callback notice =>
      rw [List.mem_singleton.mp member]
      exact .call callback notice
  | deliver delivered =>
      rcases List.mem_map.mp member with ⟨batch, _, rfl⟩
      exact .delivery delivered batch
  | drain ran failure? =>
      cases failure? with
      | none =>
          rcases List.mem_map.mp member with ⟨unit, _, rfl⟩
          exact .transaction rfl _
      | some failure => contradiction
  | _ => contradiction

namespace Machine

/-- What the next step comes to. -/
def moments (machine : Machine) : List Moment :=
  machine.agenda.head?.elim [] (·.moments machine.engine)

variable {machine after : Machine}

theorem moments_of_agenda {activity : Activity} {rest : List Activity}
    (agenda : machine.agenda = activity :: rest) :
    machine.moments = activity.moments machine.engine := by
  rw [moments, agenda]
  rfl

end Machine

/-! ## The outbox -/

/-- The outbox of a store loses what is delivered, and gains what is committed. -/
def Store.Moves (moments : List Moment) (before after : Store) : Prop :=
  ∃ waiting, before.outbox = Moment.deliveries moments ++ waiting ∧
    after.outbox = waiting ++ Moment.commits moments

theorem Store.moves_of_same
    {before after : Store} {moments : List Moment} (outbox : after.outbox = before.outbox)
    (still : ∀ moment ∈ moments, moment.committed = [] ∧ moment.passed = []) :
    Moves moments before after := by
  refine ⟨before.outbox, ?_, ?_⟩
  · have nothing : Moment.deliveries moments = [] :=
      List.flatMap_eq_nil_iff.mpr fun moment member => (still moment (List.mem_reverse.mp member)).2
    rw [nothing, List.nil_append]
  · have nothing : Moment.commits moments = [] :=
      List.flatMap_eq_nil_iff.mpr fun moment member => (still moment (List.mem_reverse.mp member)).1
    rw [nothing, List.append_nil, outbox]

/-- A transaction that puts what it commits into the outbox. -/
theorem Store.moves_of_transaction
    {before after : Store} {committed? : Option (List Change)}
    (outbox : after.outbox = before.outbox ++ batchOf committed?) :
    Moves [.transaction committed?] before after := by
  refine ⟨before.outbox, rfl, ?_⟩
  rw [outbox, Moment.commits, List.reverse_singleton, List.flatMap_singleton, Moment.committed]

/-- What does not act on the store moves no batch. -/
theorem Activity.still_moments
    {activity : Activity} (other : activity.reachesStore = false) (engine : Engine) :
    ∀ moment ∈ activity.moments engine, moment.committed = [] ∧ moment.passed = [] := by
  intro moment member
  cases brings_of_mem member with
  | transaction reaches committed? =>
      rw [other] at reaches
      contradiction
  | delivery delivered batch => contradiction
  | _ => exact ⟨rfl, rfl⟩

namespace Machine

variable {machine after : Machine}

theorem moves_perform {command : Command} (offered : command.isOffered)
    (reaches : command.reachesStore) :
    Store.Moves (command.moments machine.engine) machine.engine.store
      (machine.perform command).engine.store := by
  cases command with
  | store command =>
      cases command with
      | transact mode table steps =>
          apply Store.moves_of_transaction
          show (machine.engine.transactDirectly mode table steps).2.store.outbox = _
          rw [Engine.transactDirectly, Engine.store_elapse]
          exact Store.transaction_outbox _ mode table _
      | ensureOpen =>
          apply Store.moves_of_same ?_ (List.forall_mem_nil _)
          rw [perform, performStore]
          split
          · next store opening =>
              rcases Store.of_open? opening with ⟨rfl, _⟩ | ⟨tables, rfl⟩ <;> rfl
          · rfl
      | _ => exact Store.moves_of_same rfl (List.forall_mem_nil _)
  | feed command => cases command <;> contradiction
  | _ => contradiction

theorem moves_deliver (delivered : Nat) :
    Store.Moves ((Activity.deliver delivered).moments machine.engine) machine.engine.store
      (machine.deliver delivered).engine.store := by
  rw [Activity.moments, deliver]
  dsimp only
  cases outbox : machine.engine.store.outbox with
  | nil => exact Store.moves_of_same rfl (List.forall_mem_nil _)
  | cons batch waiting => exact ⟨waiting, outbox, (List.append_nil _).symm⟩

/-- A unit that runs leaves what it comes to by itself in the store. -/
theorem store_runUnit
    (machine : Machine) {executor : Nat} {job : Job} {unit : WorkUnit}
    (prepared : machine.engine.unit? executor job = some unit) (clock ran : Nat) :
    (machine.runUnit executor job clock ran).engine.store =
      (machine.engine.store.attempt unit).2 := by
  rcases (machine.engine.runUnit_eq unit clock).2 with ⟨monitor, now, worked⟩
  have store : ((machine.engine.runUnit unit clock).2.release executor).store =
      (machine.engine.store.attempt unit).2 := by
    rw [Engine.store_release, worked]
  cases outcome : (machine.engine.runUnit unit clock).1 with
  | ok answer =>
      rw [runUnit_of_ok machine prepared outcome]
      exact store
  | error failure =>
      rw [runUnit_of_error machine prepared outcome]
      exact store

theorem moves_drain (ran : Nat) (failure? : Option Error) :
    Store.Moves ((Activity.drain ran failure?).moments machine.engine) machine.engine.store
      (machine.drain ran failure?).engine.store := by
  cases failure? with
  | some failure => exact Store.moves_of_same rfl (List.forall_mem_nil _)
  | none =>
      cases queue : machine.engine.queue with
      | nil =>
          rw [Activity.moments, Engine.nextUnit?, drain, queue]
          exact Store.moves_of_same rfl (List.forall_mem_nil _)
      | cons task waiting =>
          cases task with
          | routine routine =>
              rw [Activity.moments, Engine.nextUnit?, drain, queue]
              apply Store.moves_of_same ?_ (List.forall_mem_nil _)
              dsimp only
              rw [store_runRoutine]
              rfl
          | unit executor job clock =>
              have next : machine.engine.nextUnit? = machine.engine.unit? executor job := by
                rw [Engine.nextUnit?, queue]
              let begun : Engine := { machine.engine with queue := waiting }
              rw [Activity.moments, next, drain_unit queue]
              cases prepared : machine.engine.unit? executor job with
              | none =>
                  have preparedNow : begun.unit? executor job = none := prepared
                  rw [runUnit_of_none (machine.become begun) preparedNow]
                  exact Store.moves_of_same rfl (List.forall_mem_nil _)
              | some unit =>
                  have preparedNow : begun.unit? executor job = some unit := prepared
                  apply Store.moves_of_transaction
                  rw [store_runUnit (machine.become begun) preparedNow]
                  exact Store.attempt_outbox_eq begun.store unit

end Machine

/-! ## What is in the outbox -/

/-- Rows stand under keys in order, and every batch in the outbox is one of a table. -/
structure Store.Stocked (store : Store) : Prop where
  keyed : store.Keyed
  batches : ∀ batch ∈ store.outbox, ∃ name, IsBatchOf name batch

theorem Store.Keyed.opened {store : Store} (keyed : store.Keyed) : store.opened.Keyed := by
  cases opening : store.open? with
  | error error => rwa [opened_of_error opening]
  | ok ready =>
      rw [opened_of_ok opening]
      exact keyed.open? opening

/-- What an activity commits is a batch of one table. -/
theorem Activity.isBatchOf_moments
    {engine : Engine} (keyed : engine.store.Keyed) (activity : Activity) :
    ∀ batch ∈ Moment.commits (activity.moments engine), ∃ name, IsBatchOf name batch := by
  intro batch member
  rcases List.mem_flatMap.mp member with ⟨moment, among, made⟩
  rw [List.mem_reverse] at among
  cases reaches : activity.reachesStore with
  | false =>
      rw [(activity.still_moments reaches engine moment among).1] at made
      contradiction
  | true =>
      cases activity with
      | perform command =>
          cases command with
          | store command =>
              cases command with
              | transact mode table steps =>
                  rw [List.mem_singleton.mp among] at made
                  have reached := OperationStep.performAll_reaches steps []
                  exact ⟨table, Store.isBatchOf_of_committed keyed.sound.wellFormed reached batch made⟩
              | _ => contradiction
          | feed command => cases command <;> contradiction
          | _ => contradiction
      | deliver delivered =>
          rcases List.mem_map.mp among with ⟨passed, _, rfl⟩
          contradiction
      | drain ran failure? =>
          cases failure? with
          | some failure => contradiction
          | none =>
              rcases List.mem_map.mp among with ⟨unit, _, rfl⟩
              have reached := unit.request.perform_reaches
              have wellFormed := keyed.opened.sound.wellFormed
              exact ⟨unit.table, Store.isBatchOf_of_committed wellFormed reached batch made⟩
      | _ => contradiction

namespace Machine

variable {machine after : Machine}

/-- One step moves the batches that it says it does. -/
theorem moves_step
    {activity : Activity} {rest : List Activity} (agenda : machine.agenda = activity :: rest)
    (offered : ∀ command, activity = .perform command → command.isOffered) :
    Store.Moves machine.moments machine.engine.store
      (act { machine with agenda := rest } activity).engine.store := by
  let working : Machine := { machine with agenda := rest }
  rw [moments_of_agenda agenda]
  cases reaches : activity.reachesStore with
  | false =>
      have same : (working.act activity).engine.store = working.engine.store := store_act reaches
      exact Store.moves_of_same (congrArg Store.outbox same) (Activity.still_moments reaches _)
  | true =>
      cases activity with
      | perform command =>
          have moves : Store.Moves (command.moments working.engine) _ _ :=
            moves_perform (offered command rfl) reaches
          exact moves
      | deliver delivered =>
          have moves : Store.Moves _ working.engine.store _ := moves_deliver delivered
          exact moves
      | drain ran failure? =>
          have moves : Store.Moves _ working.engine.store _ := moves_drain ran failure?
          exact moves
      | _ => contradiction

theorem stocked_step
    {activity : Activity} {rest : List Activity} (agenda : machine.agenda = activity :: rest)
    (offered : ∀ command, activity = .perform command → command.isOffered)
    (stocked : machine.engine.store.Stocked) :
    (act { machine with agenda := rest } activity).engine.store.Stocked := by
  have keyedWorking : ({ machine with agenda := rest } : Machine).engine.store.Keyed :=
    stocked.keyed
  refine ⟨keyed_act keyedWorking activity, ?_⟩
  rcases moves_step agenda offered with ⟨waiting, before, after⟩
  intro batch member
  rw [after] at member
  rcases List.mem_append.mp member with waits | new
  · apply stocked.batches
    rw [before]
    exact List.mem_append_right _ waits
  · rw [moments_of_agenda agenda] at new
    exact activity.isBatchOf_moments stocked.keyed batch new

end Machine

end LiveTable
