import LiveTable.Proofs.Engine.Accounts
import LiveTable.Proofs.Engine.Convergence

/-!
# One call for each commit

A machine is asked one command after another, whatever a database offers: requests, units
of executors, bindings, caches, and subscriptions among them.  Callbacks may ask commands
in turn.

A delivery first puts the whole batch on the agenda, and only the activities that come of
it, one by one, tell who watches the table; nothing comes between them, since all changes
of a batch are of one table and nobody but the registry listens.  So every step keeps the
accounts of all subscriptions even, and when a delivery is over, every subscription was
called once for each batch with changes of its table.
-/

set_option autoImplicit false

namespace LiveTable

/-! ## Machines with accounts in order -/

namespace Machine

open Moment (Subscribed watched)

/-- A machine between two steps, with its subscriptions enrolled and their accounts in order. -/
structure Notifying (machine : Machine) (history : List Moment) : Prop where
  enrolled : machine.engine.Enrolled (Subscribed history) (watched history)
  relaying : Relaying machine.engine.generation machine.agenda
  served (cache : Nat) (item : Value) (callback : Callback) :
    .serveItem cache item callback ∈ machine.agenda →
      machine.engine.Foreign (Subscribed history) callback.id
  accounts {id : Nat} (subscribed : ¬ machine.engine.Foreign (Subscribed history) id) :
    Account history id machine.agenda

variable {machine after : Machine} {history : List Moment} {activity : Activity}
  {new rest : List Activity}

theorem Notifying.relays (notifying : machine.Notifying history)
    (agenda : machine.agenda = activity :: rest) :
    activity.Current machine.engine.generation ∧ ∀ found ∈ rest, found.isRelay = false := by
  have relaying := notifying.relaying
  rwa [agenda] at relaying

/--
A step other than a delivery keeps accounts in order, if what its activity comes to is told
or put on the agenda in its place.
-/
theorem Notifying.pass
    (notifying : machine.Notifying history) (agenda : machine.agenda = activity :: rest)
    (other : activity.isDelivery = false)
    (enrolled : after.engine.Enrolled (Subscribed (machine.moments ++ history))
      (watched (machine.moments ++ history)))
    (foreign : ∀ id, machine.engine.Foreign (Subscribed history) id →
      after.engine.Foreign (Subscribed (machine.moments ++ history)) id)
    (agendaAfter : after.agenda = new ++ rest)
    (relaying : Relaying after.engine.generation (new ++ rest))
    (served : ∀ cache item callback, .serveItem cache item callback ∈ new →
      after.engine.Foreign (Subscribed (machine.moments ++ history)) callback.id)
    (passes : ∀ id, ¬ after.engine.Foreign (Subscribed (machine.moments ++ history)) id →
      activity.owes (watched history id) id =
        Moment.calls machine.moments id ++ owing (machine.moments ++ history) id new) :
    after.Notifying (machine.moments ++ history) where
  enrolled := enrolled
  relaying := by rwa [agendaAfter]
  served := by
    intro cache item callback member
    rw [agendaAfter] at member
    rcases List.mem_append.mp member with among | later
    · exact served cache item callback among
    · apply foreign
      apply notifying.served cache item callback
      rw [agenda]
      exact List.mem_cons_of_mem _ later
  accounts := by
    intro id subscribed
    have account := notifying.accounts (mt (foreign id) subscribed)
    rw [agenda] at account
    rw [agendaAfter]
    refine account.pass other (notifying.relays agenda).2 (Moment.calls_append _ _ _) ?_
      (passes id subscribed)
    rw [moments_of_agenda agenda]
    exact Moment.owed_append history (Activity.passed_moments other _) id

/-! ### Activities beside subscriptions -/

theorem Notifying.beside
    (notifying : machine.Notifying history) (agenda : machine.agenda = activity :: rest)
    (beside : activity.isBeside) :
    (act { machine with agenda := rest } activity).Notifying (machine.moments ++ history) := by
  let working : Machine := { machine with agenda := rest }
  have served (cache : Nat) (item : Value) (callback : Callback)
      (serves : activity = .serveItem cache item callback) :
      working.engine.Foreign (Subscribed history) callback.id := by
    apply notifying.served cache item callback
    rw [agenda, serves]
    exact List.mem_cons_self
  have spares : working.Spares (Subscribed history) (watched history) (working.act activity) :=
    spares_act working beside served
  rcases spares notifying.enrolled with ⟨enrolled, larger, new, agendaAfter, foreign⟩
  have turns : ∀ moment ∈ machine.moments, moment.isTurn = false := by
    rw [moments_of_agenda agenda]
    exact Activity.isTurn_moments (Activity.subscribes_of_isBeside beside) _
  have still : ∀ found ∈ new, found.isRelay = false :=
    fun found member => Activity.isRelay_of_foreign (foreign found member)
  have sameSubscribed := Moment.subscribed_append history turns
  have sameWatched := Moment.watched_append history turns
  apply notifying.pass agenda (Activity.isDelivery_of_isBeside beside)
  · rwa [sameSubscribed, sameWatched]
  · intro id before
    rw [sameSubscribed]
    exact before.mono larger
  · exact agendaAfter
  · exact relaying_of_none (List.forall_mem_append.mpr ⟨still, (notifying.relays agenda).2⟩)
  · intro cache item callback member
    rw [sameSubscribed]
    exact foreign _ member
  · intro id subscribed
    rw [sameSubscribed] at subscribed
    rw [owing_of_foreign subscribed foreign, List.append_nil, moments_of_agenda agenda]
    exact Activity.owes_of_isBeside beside machine.engine (watched history id) id

/-! ### A batch on its way to the watchers -/

/-- A step that passes on what an activity comes to, and leaves subscriptions as they are. -/
theorem Notifying.relay
    (notifying : machine.Notifying history) (agenda : machine.agenda = activity :: rest)
    (other : activity.isDelivery = false) (quiet : activity.moments machine.engine = [])
    (respects : machine.engine.Respects (Subscribed history) (watched history) after.engine)
    (agendaAfter : after.agenda = new ++ rest)
    (relaying : Relaying after.engine.generation (new ++ rest))
    (serves : ∀ cache item callback, .serveItem cache item callback ∉ new)
    (passes : ∀ id, ¬ machine.engine.Foreign (Subscribed history) id →
      activity.owes (watched history id) id = owing history id new) :
    after.Notifying (machine.moments ++ history) := by
  have none : machine.moments = [] := (moments_of_agenda agenda).trans quiet
  rcases respects notifying.enrolled with ⟨enrolled, larger⟩
  apply notifying.pass agenda other
  · rwa [none]
  · intro id before
    rw [none]
    exact before.mono larger
  · exact agendaAfter
  · exact relaying
  · exact fun cache item callback member => absurd member (serves cache item callback)
  · intro id subscribed
    rw [none] at subscribed ⊢
    exact passes id fun before => subscribed (before.mono larger)

theorem Notifying.tell
    {listener : Listener} {batch : List Change}
    (notifying : machine.Notifying history) (agenda : machine.agenda = .tell listener batch :: rest) :
    (Machine.tell { machine with agenda := rest } listener batch).Notifying
      (machine.moments ++ history) := by
  rcases notifying.relays agenda with ⟨current, relays⟩
  cases listener with
  | callback callback => exact current.elim
  | registry told =>
      rcases current with ⟨rfl, only⟩
      let working : Machine := { machine with agenda := rest }
      have tells : working.tell (.registry machine.engine.generation) batch =
          working.holding (.registry machine.engine.generation)
            [.dispatch machine.engine.generation batch] := by
        simp only [Machine.tell, working, registryOf?_generation]
      rw [tells]
      let new : List Activity := [.dispatch machine.engine.generation batch,
        .letGo (.registry machine.engine.generation)]
      refine notifying.relay agenda rfl rfl (Engine.respects_hold _ _)
        (show _ = new ++ rest from rfl) ?_ ?_ ?_
      · exact ⟨⟨rfl, only⟩, List.forall_mem_cons.mpr ⟨rfl, relays⟩⟩
      · simp [new]
      · simp [new, Activity.owes]

theorem touchedAfter_of_isBatchOf {name : String} {batch : List Change}
    (only : IsBatchOf name batch) :
    touchedAfter [] batch = [name] := by
  have rest (later : List Change) (same : ∀ change ∈ later, change.table = name) :
      touchedAfter [name] later = [] := by
    induction later with
    | nil => rfl
    | cons change rest ih =>
        have here := same change List.mem_cons_self
        rw [touchedAfter, if_pos (by simp [here])]
        exact ih fun other member => same other (List.mem_cons_of_mem _ member)
  cases batch with
  | nil => exact absurd rfl only.1
  | cons change later =>
      have here := only.2 change List.mem_cons_self
      rw [touchedAfter, if_neg (by simp), here, rest later]
      exact fun other member => only.2 other (List.mem_cons_of_mem _ member)

theorem Notifying.dispatch
    {told : Nat} {batch : List Change}
    (notifying : machine.Notifying history) (agenda : machine.agenda = .dispatch told batch :: rest) :
    (Machine.dispatch { machine with agenda := rest } told batch).Notifying
      (machine.moments ++ history) := by
  rcases notifying.relays agenda with ⟨⟨rfl, name, only⟩, relays⟩
  rw [Machine.dispatch, touchedAfter_of_isBatchOf only]
  refine notifying.relay agenda rfl rfl (Engine.respects_refl _)
    (show _ = [Activity.visit machine.engine.generation name] ++ rest from rfl) ?_ ?_ ?_
  · exact ⟨rfl, relays⟩
  · simp
  · intro id _
    simp [Activity.owes, promptedBy_of_isBatchOf only]

/-- Alerts come to one notice for each watcher that is the callback of the number. -/
theorem owing_map_alert (id : Nat) (table : String) (watchers : List Watcher) :
    owing history id (watchers.map (.alert · table)) =
      List.replicate (watchers.countP (·.calls id)) (.table table) := by
  induction watchers with
  | nil => rfl
  | cons watcher rest ih =>
      rw [List.map_cons, owing_cons, ih, List.countP_cons, Nat.add_comm, List.replicate_add]
      cases watcher with
      | callback callback =>
          by_cases same : callback.id = id <;> simp [Activity.owes, Watcher.calls, same]
      | _ => simp [Activity.owes, Watcher.calls]

/-- The watchers of a table alert each subscription to it once, and no other. -/
theorem owing_alerts
    {registry : Registry Watcher} {id : Nat} (lists : registry.Lists id (watched history id))
    (table : String) :
    owing history id ((registry.watchersOf table).map (.alert · table)) =
      if watched history id = some table then [.table table] else [] := by
  rw [owing_map_alert, Registry.watchersOf, List.countP_map]
  show List.replicate ((registry.entriesOf table).countP (·.2.calls id)) _ = _
  rw [lists.once table]
  split <;> rfl

theorem Notifying.visit
    {told : Nat} {table : String}
    (notifying : machine.Notifying history) (agenda : machine.agenda = .visit told table :: rest) :
    (Machine.visit { machine with agenda := rest } told table).Notifying
      (machine.moments ++ history) := by
  rcases notifying.relays agenda with ⟨rfl, relays⟩
  let working : Machine := { machine with agenda := rest }
  let alerts : List Activity := (machine.engine.registry.watchersOf table).map (.alert · table)
  have visits : working.visit machine.engine.generation table = working.next alerts := by
    simp only [Machine.visit, working, registryOf?_generation]
    rfl
  rw [visits]
  refine notifying.relay agenda rfl rfl (Engine.respects_refl _) rfl ?_ ?_ ?_
  · apply relaying_of_none
    exact List.forall_mem_append.mpr ⟨List.forall_mem_map.mpr fun _ _ => rfl, relays⟩
  · simp [alerts]
  · intro id subscribed
    exact (owing_alerts (notifying.enrolled.lists subscribed) table).symm

theorem Notifying.alert
    {callback : Callback} {table : String}
    (notifying : machine.Notifying history)
    (agenda : machine.agenda = .alert (.callback callback) table :: rest) :
    (Machine.alert { machine with agenda := rest } (.callback callback) table).Notifying
      (machine.moments ++ history) := by
  refine notifying.relay agenda rfl rfl (Engine.respects_refl _)
    (show _ = [Activity.call callback (.table table)] ++ rest from rfl) ?_ ?_ ?_
  · exact ⟨trivial, (notifying.relays agenda).2⟩
  · simp
  · simp [Activity.owes]

/-! ### Deliveries -/

/-- A delivery puts a batch on the agenda for the registry, if that listens at all. -/
theorem owing_tells
    {engine : Engine} (enrolled : engine.Enrolled (Subscribed history) (watched history))
    (id : Nat) (batch : List Change) :
    owing history id (engine.listeners.all.map (.tell · batch)) =
      promptedBy batch (watched history id) := by
  rw [enrolled.listeners]
  cases attachment : engine.attachment? with
  | some number => simp [Activity.owes]
  | none =>
      cases watches : watched history id with
      | none => rfl
      | some table =>
          have attached := enrolled.attached id (by rw [watches]; rfl)
          rw [attachment] at attached
          contradiction

section Deliver

variable {delivered : Nat}

theorem Notifying.served_rest
    (notifying : machine.Notifying history) (agenda : machine.agenda = activity :: rest)
    (cache : Nat) (item : Value) (callback : Callback)
    (member : .serveItem cache item callback ∈ rest) :
    machine.engine.Foreign (Subscribed history) callback.id := by
  apply notifying.served cache item callback
  rw [agenda]
  exact List.mem_cons_of_mem _ member

theorem Notifying.deliver_nothing
    (notifying : machine.Notifying history) (agenda : machine.agenda = .deliver delivered :: rest)
    (outbox : machine.engine.store.outbox = []) :
    (Machine.deliver { machine with agenda := rest } delivered).Notifying history := by
  simp only [Machine.deliver, outbox]
  exact {
    enrolled := { notifying.enrolled with }
    relaying := relaying_of_none (notifying.relays agenda).2
    served := notifying.served_rest agenda
    accounts := by
      intro id subscribed
      have account := notifying.accounts subscribed
      rw [agenda] at account
      exact account.finish }

theorem Notifying.deliver_batch
    {batch : List Change} {waiting : List (List Change)}
    (notifying : machine.Notifying history) (balanced : machine.Balanced)
    (agenda : machine.agenda = .deliver delivered :: rest)
    (outbox : machine.engine.store.outbox = batch :: waiting) (only : ∃ name, IsBatchOf name batch) :
    (Machine.deliver { machine with agenda := rest } delivered).Notifying
      (.delivered batch :: history) := by
  let engine : Engine :=
    { machine.engine with store := { machine.engine.store with outbox := waiting } }
  let tells : List Activity := machine.engine.listeners.all.map (.tell · batch)
  have delivers :
      Machine.deliver { machine with agenda := rest } delivered =
        { machine with engine := engine, agenda := tells ++ [.deliver (delivered + 1)] ++ rest } := by
    simp only [Machine.deliver, outbox]
    rfl
  have sameSubscribed : Subscribed (.delivered batch :: history) = Subscribed history := by
    have none : ∀ moment ∈ [Moment.delivered batch], moment.isTurn = false :=
      List.forall_mem_singleton.mpr rfl
    exact Moment.subscribed_append history none
  have goesOn : ∀ found ∈ .deliver (delivered + 1) :: rest, found.isRelay = false :=
    List.forall_mem_cons.mpr ⟨rfl, (notifying.relays agenda).2⟩
  rw [delivers, List.append_assoc, List.singleton_append]
  constructor
  · rw [sameSubscribed]
    exact { notifying.enrolled with }
  · -- Only the registry is told, if anybody is.
    show Relaying _ (machine.engine.listeners.all.map (.tell · batch) ++ _)
    rw [notifying.enrolled.listeners]
    cases machine.engine.attachment? with
    | none => exact relaying_of_none goesOn
    | some number => exact ⟨⟨rfl, only⟩, goesOn⟩
  · intro cache item callback member
    rw [sameSubscribed]
    rcases List.mem_append.mp member with told | later
    · rcases List.mem_map.mp told with ⟨listener, _, same⟩
      contradiction
    · rcases List.mem_cons.mp later with same | later
      · contradiction
      · exact notifying.served_rest agenda cache item callback later
  · intro id subscribed
    rw [sameSubscribed] at subscribed
    have account := notifying.accounts subscribed
    rw [agenda] at account
    exact account.deliver (balanced.of_delivery agenda).2
      (owing_tells notifying.enrolled id batch)

theorem Notifying.deliver
    (notifying : machine.Notifying history) (balanced : machine.Balanced)
    (batches : ∀ batch ∈ machine.engine.store.outbox, ∃ name, IsBatchOf name batch)
    (agenda : machine.agenda = .deliver delivered :: rest) :
    (Machine.deliver { machine with agenda := rest } delivered).Notifying
      (machine.moments ++ history) := by
  rw [moments_of_agenda agenda, Activity.moments]
  cases outbox : machine.engine.store.outbox with
  | nil => exact notifying.deliver_nothing agenda outbox
  | cons batch waiting =>
      apply notifying.deliver_batch balanced agenda outbox
      apply batches
      rw [outbox]
      exact List.mem_cons_self

end Deliver

/-! ### Subscriptions that come and go -/

theorem subscribed_ended (former? : Option Nat) :
    Subscribed (former?.toList.map .ended ++ history) = Subscribed history := by
  funext id
  exact propext (exists_congr fun table => by simp)

theorem subscribed_new (id : Nat) (table : String) :
    Subscribed (.subscribed id table :: history) =
      fun other => other = id ∨ Subscribed history other := by
  funext other
  apply propext
  constructor
  · rintro ⟨watched, member⟩
    rcases List.mem_cons.mp member with same | earlier
    · injection same with same _
      exact Or.inl same
    · exact Or.inr ⟨watched, earlier⟩
  · rintro (rfl | ⟨watched, earlier⟩)
    · exact ⟨table, List.mem_cons_self⟩
    · exact ⟨watched, List.mem_cons_of_mem _ earlier⟩

/-- A subscription that a name stood for, if any, ends, and the others stay enrolled. -/
theorem enrolled_ended
    {engine : Engine} (enrolled : engine.Enrolled (Subscribed history) (watched history))
    (former? : Option Nat) :
    (former?.elim engine engine.leave).Enrolled
      (Subscribed (former?.toList.map .ended ++ history))
      (watched (former?.toList.map .ended ++ history)) := by
  rw [subscribed_ended]
  cases former? with
  | none => exact enrolled
  | some former => exact enrolled.leave former

/-- A command by which subscriptions come and go leaves the agenda and all accounts alone. -/
theorem Notifying.turn
    {command : Command} (notifying : machine.Notifying history)
    (agenda : machine.agenda = .perform command :: rest)
    (enrolled : after.engine.Enrolled (Subscribed (machine.moments ++ history))
      (watched (machine.moments ++ history)))
    (foreign : ∀ id, machine.engine.Foreign (Subscribed history) id →
      after.engine.Foreign (Subscribed (machine.moments ++ history)) id)
    (agendaAfter : after.agenda = rest) :
    after.Notifying (machine.moments ++ history) := by
  refine notifying.pass agenda rfl enrolled foreign (show after.agenda = [] ++ rest from agendaAfter)
    (relaying_of_none (notifying.relays agenda).2) ?_ ?_
  · exact fun _ _ _ member => absurd member List.not_mem_nil
  · intro id _
    rw [moments_of_agenda agenda, Activity.calls_moments (by simp)]
    rfl

theorem nextId_elim_leave (engine : Engine) (former? : Option Nat) :
    (former?.elim engine engine.leave).nextId = engine.nextId := by
  cases former? <;> rfl

theorem Notifying.stop
    {name : String} (notifying : machine.Notifying history)
    (agenda : machine.agenda = .perform (.watch (.stop name)) :: rest) :
    (performWatch { machine with agenda := rest } (.stop name)).Notifying
      (machine.moments ++ history) := by
  let former? := (machine.engine.handles name).watch?
  let after := performWatch { machine with agenda := rest } (.stop name)
  have moments : machine.moments = former?.toList.map .ended := moments_of_agenda agenda
  have stops : after.engine = former?.elim machine.engine machine.engine.leave ∧
      after.agenda = rest := by
    simp only [after, former?, performWatch]
    split
    · next none => rw [none]; exact ⟨rfl, rfl⟩
    · next some => rw [some]; exact ⟨rfl, rfl⟩
  apply notifying.turn agenda
  · rw [moments, stops.1]
    exact enrolled_ended notifying.enrolled former?
  · intro id foreign
    rw [moments, subscribed_ended, Engine.Foreign, stops.1, nextId_elim_leave]
    exact foreign
  · exact stops.2

theorem Notifying.drop
    {name : String} (notifying : machine.Notifying history)
    (agenda : machine.agenda = .perform (.drop name) :: rest) :
    (perform { machine with agenda := rest } (.drop name)).Notifying
      (machine.moments ++ history) := by
  let handles := machine.engine.handles name
  let forgotten : Engine := { machine.engine with names := machine.engine.names.erase name }
  let left := handles.watch?.elim forgotten forgotten.leave
  let later := handles.watch?.toList.map Moment.ended ++ history
  have moments : machine.moments = handles.watch?.toList.map .ended := moments_of_agenda agenda
  have enrolledForgotten : forgotten.Enrolled (Subscribed history) (watched history) :=
    { notifying.enrolled with }
  have enrolledLeft : left.Enrolled (Subscribed later) (watched later) :=
    enrolled_ended enrolledForgotten handles.watch?
  have unbinds : left.Respects (Subscribed later) (watched later) _ :=
    Engine.respects_discard? left handles.binding?
  have discards := unbinds.trans (Engine.respects_discard? _ handles.cache?)
  rcases discards enrolledLeft with ⟨enrolled, larger⟩
  apply notifying.turn agenda
  · rw [moments]
    exact enrolled
  · intro id foreign
    rw [moments, subscribed_ended]
    apply foreign.mono
    have same : left.nextId = machine.engine.nextId := nextId_elim_leave forgotten handles.watch?
    rwa [same] at larger
  · rfl

theorem Notifying.subscribe
    {name table : String} {reaction : Reaction Command} (notifying : machine.Notifying history)
    (agenda : machine.agenda = .perform (.watch (.create name table reaction)) :: rest) :
    (performWatch { machine with agenda := rest } (.create name table reaction)).Notifying
      (machine.moments ++ history) := by
  let former? := (machine.engine.handles name).watch?
  let id := machine.engine.nextId
  let begun := Moment.subscribed id table :: history
  let watching := (machine.engine.register reaction).2.watch id table
    (.callback (machine.engine.register reaction).1)
  let named := watching.rename name fun handles => { handles with watch? := some id }
  have later : machine.moments ++ history = former?.toList.map .ended ++ begun := by
    rw [moments_of_agenda agenda]
    exact List.append_assoc _ _ _
  have enrolledWatching : watching.Enrolled (Subscribed begun) (watched begun) := by
    rw [subscribed_new]
    exact notifying.enrolled.subscribe reaction table
  have enrolledNamed : named.Enrolled (Subscribed begun) (watched begun) :=
    (Engine.respects_rename watching name _ enrolledWatching).1
  have nextId : (former?.elim named named.leave).nextId = machine.engine.nextId + 1 := by
    rw [nextId_elim_leave]
    exact congrArg Engine.nextId (Engine.watch_register machine.engine reaction table)
  apply notifying.turn agenda
  · rw [later]
    exact enrolled_ended enrolledNamed former?
  · intro other foreign
    rw [later, subscribed_ended, subscribed_new]
    show other < (former?.elim named named.leave).nextId ∧ _
    rw [nextId]
    refine ⟨Nat.lt_succ_of_lt foreign.1, ?_⟩
    rintro (rfl | earlier)
    · exact Nat.lt_irrefl _ foreign.1
    · exact foreign.2 earlier
  · rfl

/-! ### Every step -/

/-- One step keeps accounts in order, as long as the command that it carries out is offered. -/
theorem Notifying.step
    (notifying : machine.Notifying history) (balanced : machine.Balanced)
    (batches : ∀ batch ∈ machine.engine.store.outbox, ∃ name, IsBatchOf name batch)
    (agenda : machine.agenda = activity :: rest)
    (offered : ∀ command, activity = .perform command → command.isOffered) :
    (act { machine with agenda := rest } activity).Notifying (machine.moments ++ history) := by
  cases activity with
  | deliver delivered => exact notifying.deliver balanced batches agenda
  | tell listener batch => exact notifying.tell agenda
  | dispatch generation batch => exact notifying.dispatch agenda
  | visit generation table => exact notifying.visit agenda
  | alert watcher table =>
      cases watcher with
      | callback callback => exact notifying.alert agenda
      | _ => exact notifying.beside agenda rfl
  | perform command =>
      cases turns : command.subscribes with
      | false =>
          apply notifying.beside agenda
          rw [Activity.isBeside, offered command rfl, turns]
          rfl
      | true =>
          cases command with
          | watch command =>
              cases command with
              | create name table reaction => exact notifying.subscribe agenda
              | stop name => exact notifying.stop agenda
          | drop name => exact notifying.drop agenda
          | _ => contradiction
  | _ => exact notifying.beside agenda rfl

/-! ## Runs -/

/--
The machines that come up while an engine is asked one command after another, each with its
history: all commands that are carried out, also those of callbacks, are offered.
-/
inductive Observed (first : Engine) : Machine → List Moment → Prop where
  | start : Observed first first.idle []
  | call {machine : Machine} {history : List Moment} (observed : Observed first machine history)
      (finished : machine.agenda = []) (command : Command) :
      Observed first (Machine.start machine.engine command) history
  | step {machine after : Machine} {history : List Moment}
      (observed : Observed first machine history)
      (offered : ∀ command, .perform command ∈ machine.agenda.head? → command.isOffered)
      (stepped : machine.step? = some after) :
      Observed first after (machine.moments ++ history)

/-- What holds of every machine that is observed, and of its history. -/
structure Recorded (machine : Machine) (history : List Moment) : Prop where
  notifying : machine.Notifying history
  balanced : machine.Balanced
  stocked : machine.engine.store.Stocked
  outbox : Moment.commits history = Moment.deliveries history ++ machine.engine.store.outbox
  unique {id : Nat} {table other : String} (subscribed : .subscribed id table ∈ history)
    (again : .subscribed id other ∈ history) : other = table

theorem idle_recorded (name : String) (schema : StoreSchema) (config : Config) :
    (Engine.create name schema config).idle.Recorded [] where
  notifying := {
    enrolled := by
      have nobody : Subscribed [] = fun _ => False := by
        funext id
        exact propext ⟨fun ⟨_, member⟩ => absurd member List.not_mem_nil, False.elim⟩
      rw [nobody]
      exact Engine.create_enrolled name schema config
    relaying := trivial
    served := fun _ _ _ member => absurd member List.not_mem_nil
    accounts := fun _ =>
      ⟨rfl, fun suffix _ => by rw [List.suffix_nil.mp suffix, owing_nil]⟩ }
  balanced := rfl
  stocked := ⟨Store.ofSchema_keyed name schema, List.forall_mem_nil _⟩
  outbox := rfl
  unique subscribed := absurd subscribed List.not_mem_nil

/-- A machine that has finished may be asked whatever comes next. -/
theorem Recorded.call
    (recorded : machine.Recorded history) (finished : machine.agenda = []) (command : Command) :
    (Machine.start machine.engine command).Recorded history where
  notifying := {
    enrolled := recorded.notifying.enrolled
    relaying := ⟨trivial, List.forall_mem_nil _⟩
    served := fun _ _ _ member => nomatch List.mem_singleton.mp member
    accounts := by
      intro id subscribed
      have even := (recorded.notifying.accounts subscribed).even
      rw [finished] at even
      refine ⟨even, ?_⟩
      intro rest suffix _
      rcases List.suffix_cons_iff.mp suffix with rfl | suffix
      · rfl
      · rw [List.suffix_nil.mp suffix, owing_nil] }
  balanced := by
    have balanced := recorded.balanced
    rw [Balanced, finished] at balanced
    exact balanced
  stocked := recorded.stocked
  outbox := recorded.outbox
  unique := recorded.unique

theorem Recorded.step
    (recorded : machine.Recorded history) (stepped : machine.step? = some after)
    (offered : ∀ command, .perform command ∈ machine.agenda.head? → command.isOffered) :
    after.Recorded (machine.moments ++ history) := by
  have balanced := recorded.balanced.step stepped
  rcases of_step? stepped with ⟨activity, rest, agenda, rfl⟩
  have offeredHere (command : Command) (here : activity = .perform command) :
      command.isOffered := by
    apply offered
    rw [agenda, here]
    rfl
  refine ⟨?_, balanced, stocked_step agenda offeredHere recorded.stocked, ?_, ?_⟩
  · exact recorded.notifying.step recorded.balanced recorded.stocked.batches agenda offeredHere
  · rcases moves_step agenda offeredHere with ⟨waiting, before, after⟩
    rw [Moment.commits_append, Moment.deliveries_append, recorded.outbox, before, after]
    simp only [List.append_assoc]
  · -- A number that is given out now has not been a subscription's before.
    have new {id : Nat} (table : String) (member : .subscribed id table ∈ machine.moments) :
        ¬ Subscribed history id := by
      intro earlier
      rw [moments_of_agenda agenda] at member
      rw [(Activity.of_subscribed_mem member).1] at earlier
      exact Nat.lt_irrefl _ (recorded.notifying.enrolled.numbered _ earlier)
    intro id table other subscribed again
    rcases List.mem_append.mp subscribed with now | before <;>
      rcases List.mem_append.mp again with nowAgain | beforeAgain
    · rw [moments_of_agenda agenda] at now nowAgain
      rcases (Activity.of_subscribed_mem now).2 with ⟨name, reaction, rfl⟩
      rcases (Activity.of_subscribed_mem nowAgain).2 with ⟨_, _, same⟩
      injection same with same
      injection same with same
      injection same with _ same _
      exact same.symm
    · exact absurd ⟨other, beforeAgain⟩ (new table now)
    · exact absurd ⟨table, before⟩ (new other nowAgain)
    · exact recorded.unique before beforeAgain

theorem Observed.recorded
    {name : String} {schema : StoreSchema} {config : Config}
    (observed : Observed (.create name schema config) machine history) :
    machine.Recorded history := by
  induction observed with
  | start => exact idle_recorded name schema config
  | call _ finished command ih => exact ih.call finished command
  | step _ offered stepped ih => exact ih.step stepped offered

/-! ### Runs that are carried out -/

/-- Whether the next command, if one is about to be carried out, is offered. -/
def isOffering (machine : Machine) : Bool :=
  machine.agenda.head?.all fun
    | .perform command => command.isOffered
    | _ => true

theorem offered_of_isOffering
    {command : Command} (offering : machine.isOffering)
    (head : .perform command ∈ machine.agenda.head?) :
    command.isOffered := by
  rw [isOffering, Option.mem_def.mp head] at offering
  exact offering

/-- A machine after a number of steps, or where it ends or reaches for what is not offered. -/
def follow : Nat → Machine × List Moment → Machine × List Moment
  | 0, state => state
  | limit + 1, state =>
    if state.1.isOffering then
      match state.1.step? with
      | none => state
      | some next => follow limit (next, state.1.moments ++ state.2)
    else state

/-- Carries out the next command, within a number of steps, if the machine has finished. -/
def observeNext (limit : Nat) (state : Machine × List Moment) (command : Command) :
    Machine × List Moment :=
  if state.1.agenda.isEmpty then follow limit (.start state.1.engine command, state.2) else state

/-- Carries out commands one after another, each within a number of steps. -/
def observe (limit : Nat) (first : Engine) (commands : List Command) : Machine × List Moment :=
  commands.foldl (observeNext limit) (first.idle, [])

variable {first : Engine}

theorem Observed.follow
    (limit : Nat) {state : Machine × List Moment} (observed : Observed first state.1 state.2) :
    Observed first (follow limit state).1 (follow limit state).2 := by
  induction limit generalizing state with
  | zero => exact observed
  | succ limit ih =>
      rw [Machine.follow]
      split
      · next offering =>
          split
          · exact observed
          · next next stepped =>
              exact ih (observed.step (fun _ => offered_of_isOffering offering) stepped)
      · exact observed

theorem Observed.observe (limit : Nat) (commands : List Command) :
    Observed first (observe limit first commands).1 (observe limit first commands).2 := by
  rw [Machine.observe]
  generalize initially : (first.idle, ([] : List Moment)) = state
  have observed : Observed first state.1 state.2 := by
    rw [← initially]
    exact .start
  clear initially
  -- The commands are carried out from any state that comes up.
  induction commands generalizing state with
  | nil => exact observed
  | cons command rest ih =>
      apply ih
      rw [observeNext]
      split
      · next finished => exact (observed.call (List.isEmpty_iff.mp finished) command).follow limit
      · exact observed

/-! ## One call for each commit -/

/-- Where a machine is done with all batches that have left the outbox. -/
def BetweenBatches (machine : Machine) : Prop :=
  machine.engine.isFlushing = false ∨
    ∃ delivered rest, machine.agenda = .deliver delivered :: rest

/-- Between two batches there is nothing on the agenda for a subscription. -/
theorem Recorded.owing_eq_nil
    (recorded : machine.Recorded history) (between : machine.BetweenBatches) {id : Nat}
    (account : Account history id machine.agenda) :
    owing history id machine.agenda = [] := by
  rcases between with idle | ⟨delivered, rest, agenda⟩
  · apply account.backed (List.suffix_refl _)
    have balanced := recorded.balanced
    rw [Balanced, idle] at balanced
    exact balanced
  · rw [agenda] at account ⊢
    rw [owing_cons, account.backed (List.suffix_cons _ _) (recorded.balanced.of_delivery agenda).2]
    rfl

/--
Subscribers are notified once per commit.  Whatever a database is asked, the batches that
transactions have committed are those that were delivered and then those in the outbox.
The callback of a subscription was never called but for a delivered batch with changes of
its table, which was delivered while the registry listed it, and then with the name of the
table; the calls come in the order of the batches.  Between two batches none is missing.
-/
theorem subscribers_notified_once_per_commit
    {name : String} {schema : StoreSchema} {config : Config} {machine : Machine}
    {history : List Moment} (observed : Observed (.create name schema config) machine history) :
    Moment.commits history = Moment.deliveries history ++ machine.engine.store.outbox ∧
    ∀ id table, .subscribed id table ∈ history →
      machine.engine.registry.tableOf? id = watched history id ∧
      Moment.calls history id <+: Moment.due table id history ∧
      (machine.BetweenBatches → Moment.calls history id = Moment.due table id history) := by
  have recorded := observed.recorded
  refine ⟨recorded.outbox, ?_⟩
  intro id table member
  have subscribed : ¬ machine.engine.Foreign (Subscribed history) id :=
    fun foreign => foreign.2 ⟨table, member⟩
  have account := recorded.notifying.accounts subscribed
  have due : Moment.owed history id = Moment.due table id history :=
    Moment.owed_eq_due fun other again => recorded.unique member again
  rw [← due, ← account.even]
  refine ⟨(recorded.notifying.enrolled.lists subscribed).table, List.prefix_append _ _, ?_⟩
  intro between
  rw [recorded.owing_eq_nil between account, List.append_nil]

/--
Two watch a table.  A record is put, one of them goes, a transaction fails after it has
cleared the table, one only counts, one is on another table, and a second record is put:
the subscription that stayed was called twice.
-/
theorem notified_of_two_commits :
    let first : Engine :=
      .create "s" ⟨1, [⟨"t", "id", false, []⟩, ⟨"u", "id", false, []⟩]⟩ .standard
    let put (table : String) (key : Int64) : Command :=
      .request (.submit none table (.put (.ofList [("id", .integer key)])))
    let asked : List Command :=
      [.watch (.create "v" "t" ⟨"v", [], 0⟩), .watch (.create "w" "t" ⟨"w", [], 0⟩), put "t" 1,
        .watch (.stop "v"),
        .store (.transact .readWrite "t" [⟨.clear, false⟩, ⟨.fail "no", false⟩]),
        .store (.transact .readOnly "t" [⟨.count, false⟩]), put "u" 1, put "t" 2]
    let run := observe 60 first asked
    run.1.BetweenBatches ∧ .subscribed 2 "t" ∈ run.2 ∧
      run.1.engine.registry.tableOf? 2 = some "t" ∧
      Moment.calls run.2 2 = Moment.due "t" 2 run.2 ∧
      (Moment.calls run.2 2).length = 2 ∧ (Moment.commits run.2).length = 3 := by
  intro first put asked run
  have observed : Observed first run.1 run.2 := .observe 60 asked
  have idle : run.1.engine.isFlushing = false := by
    subst run asked put first
    decide +kernel
  have watches : watched run.2 2 = some "t" := by
    subst run asked put first
    decide +kernel
  have begun : .subscribed 2 "t" ∈ run.2 := Moment.subscribed_of_watched watches
  have calls : (Moment.calls run.2 2).length = 2 := by
    subst run asked put first
    decide +kernel
  have commits : (Moment.commits run.2).length = 3 := by
    subst run asked put first
    decide +kernel
  rcases (subscribers_notified_once_per_commit observed).2 2 "t" begun with ⟨lists, _, all⟩
  exact ⟨.inl idle, begun, lists.trans watches, all (.inl idle), calls, commits⟩

end Machine

end LiveTable
