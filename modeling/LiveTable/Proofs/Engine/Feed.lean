import LiveTable.Proofs.Engine.Fates
import LiveTable.Proofs.Engine.Idleness
import LiveTable.Proofs.Engine.Moments

/-!
# What the feed delivers

Batches come into the outbox as they are published, and leave it at its front, one by one,
while the feed is flushed.  So the batches that were delivered and those that still wait are,
put together, the batches that were published, but for those without changes.

A batch that leaves the outbox is owed to the listeners of that moment, in the order in which
they came to listen.  What is owed stands on the agenda before the next delivery, and whatever
listeners do when they are given a batch comes in front of that and owes nothing to anybody.
So each batch is passed once to each of its listeners before the next one leaves the outbox.

A flush ends its delivery only when the outbox is empty; a flush within a flush ends at once.
-/

set_option autoImplicit false

namespace LiveTable

/-- A batch that leaves the outbox, with the listeners of that moment and their numbers. -/
structure Delivery where
  batch : List Change
  listeners : List (Nat × Listener)

/-- The listeners in their order, each with the batch that it is to be given. -/
def Delivery.passes (delivery : Delivery) : List (Listener × List Change) :=
  delivery.listeners.map fun entry => (entry.2, delivery.batch)

namespace Activity

/-- The batch that an activity publishes: it is given, or a transaction commits it. -/
def published? (engine : Engine) : Activity → Option (List Change)
  | .perform (.feed (.publish batch)) => some batch
  | .perform (.store (.transact mode table steps)) =>
    engine.store.committed? mode table (OperationStep.performAll [] steps)
  | .drain _ none => engine.nextUnit?.bind fun unit =>
      engine.store.opened.committed? unit.mode unit.table unit.request.perform
  | _ => none

/-- The delivery that an activity begins: that of the batch at the front of the outbox. -/
def delivery? (engine : Engine) : Activity → Option Delivery
  | .deliver _ => engine.store.outbox.head?.map fun batch => ⟨batch, engine.listeners.entries⟩
  | _ => none

/-- The listener that an activity passes a batch to. -/
def pass? : Activity → Option (Listener × List Change)
  | .tell (.registry generation) batch => some (.registry generation, batch)
  | .call callback (.changes batch) => some (.callback callback, batch)
  | _ => none

/-- The listener that an activity owes a batch, because it passes it on or leads to that. -/
def owed? : Activity → Option (Listener × List Change)
  | .tell listener batch => some (listener, batch)
  | .call callback (.changes batch) => some (.callback callback, batch)
  | _ => none

variable {activity : Activity}

theorem isFeeding_eq_false_iff :
    activity.isFeeding = false ↔ activity.isDelivery = false ∧ activity.owed? = none := by
  cases activity with
  | call callback notice => cases notice <;> simp [isFeeding, isDelivery, owed?]
  | _ => simp [isFeeding, isDelivery, owed?]

theorem delivery?_of_other (other : activity.isDelivery = false) (engine : Engine) :
    activity.delivery? engine = none := by
  cases activity <;> first | rfl | contradiction

/-- What relays no batch passes just the batch on that it owes. -/
theorem pass?_of_other (other : activity.relays = false) : activity.pass? = activity.owed? := by
  cases activity with
  | tell listener batch => contradiction
  | call callback notice => cases notice <;> rfl
  | _ => rfl

end Activity

namespace Machine

/-- The batch that the next step publishes. -/
def published? (machine : Machine) : Option (List Change) :=
  machine.agenda.head?.bind (·.published? machine.engine)

/-- The delivery that the next step begins. -/
def delivery? (machine : Machine) : Option Delivery :=
  machine.agenda.head?.bind (·.delivery? machine.engine)

/-- The listener that the next step passes a batch to. -/
def pass? (machine : Machine) : Option (Listener × List Change) :=
  machine.agenda.head?.bind (·.pass?)

/-- The batches that activities owe, with the listeners that they are owed to. -/
def owed (activities : List Activity) : List (Listener × List Change) :=
  activities.filterMap Activity.owed?

theorem owed_cons (activity : Activity) (rest : List Activity) :
    owed (activity :: rest) = activity.owed?.toList ++ owed rest := by
  rw [owed, List.filterMap_cons]
  cases activity.owed? <;> rfl

@[simp]
theorem owed_append (first second : List Activity) :
    owed (first ++ second) = owed first ++ owed second :=
  List.filterMap_append

theorem owed_of_quiet {activities : List Activity}
    (quiet : ∀ found ∈ activities, found.isFeeding = false) : owed activities = [] :=
  List.filterMap_eq_nil_iff.mpr fun found member =>
    (Activity.isFeeding_eq_false_iff.mp (quiet found member)).2

theorem quiet_of_owed {activities : List Activity} (owes : owed activities = [])
    (none : ∀ found ∈ activities, found.isDelivery = false) :
    ∀ found ∈ activities, found.isFeeding = false := fun found member =>
  Activity.isFeeding_eq_false_iff.mpr
    ⟨none found member, List.filterMap_eq_nil_iff.mp owes found member⟩

/-- What a delivery owes stands on the agenda as soon as the batch has left the outbox. -/
theorem owed_tells (engine : Engine) (batch : List Change) :
    owed (engine.listeners.all.map (Activity.tell · batch)) =
      (Delivery.mk batch engine.listeners.entries).passes := by
  rw [owed, Delivery.passes, Subscribers.all, List.map_map, List.filterMap_map]
  rw [← List.filterMap_eq_map]
  rfl

section Heads

variable {machine : Machine} {activity : Activity} {rest : List Activity}

theorem published?_of_agenda (agenda : machine.agenda = activity :: rest) :
    machine.published? = activity.published? machine.engine := by
  rw [published?, agenda]
  rfl

theorem delivery?_of_agenda (agenda : machine.agenda = activity :: rest) :
    machine.delivery? = activity.delivery? machine.engine := by
  rw [delivery?, agenda]
  rfl

theorem pass?_of_agenda (agenda : machine.agenda = activity :: rest) :
    machine.pass? = activity.pass? := by
  rw [pass?, agenda]
  rfl

end Heads

end Machine

/-! ## The outbox -/

/-- A batch that was published or not, unless it is without changes. -/
theorem Store.batchOf_eq (batch? : Option (List Change)) :
    batchOf batch? = batch?.toList.filter (!·.isEmpty) := by
  rcases batch? with _ | _ | ⟨change, others⟩ <;> rfl

/-- What has left an outbox, with what is in it, is what was in it, with what has come. -/
theorem Store.Moves.outbox {moments : List Moment} {before after : Store}
    (moves : Moves moments before after) :
    Moment.deliveries moments ++ after.outbox = before.outbox ++ Moment.commits moments := by
  rcases moves with ⟨waiting, outboxBefore, outboxAfter⟩
  rw [outboxBefore, outboxAfter, List.append_assoc]

namespace Machine

variable {machine after : Machine} {activity : Activity} {rest : List Activity}

theorem outbox_performStore (command : StoreCommand) :
    (machine.perform (.store command)).engine.store.outbox =
      machine.engine.store.outbox ++
        ((Activity.perform (.store command)).published? machine.engine).toList.filter
          (!·.isEmpty) := by
  have moves := (@moves_perform machine (.store command) rfl rfl).outbox
  cases command with
  | transact mode table steps =>
      rw [Activity.published?, ← Store.batchOf_eq]
      exact moves.trans (by simp [Command.moments, Moment.commits, Moment.committed])
  | _ => exact moves

theorem outbox_deliver (delivered : Nat) :
    ((Activity.deliver delivered).delivery? machine.engine).toList.map Delivery.batch ++
        (machine.deliver delivered).engine.store.outbox =
      machine.engine.store.outbox := by
  have moves := (@moves_deliver machine delivered).outbox
  rw [Activity.moments] at moves
  rw [Activity.delivery?]
  cases front : machine.engine.store.outbox.head? with
  | none => simpa [front, Moment.commits, Moment.deliveries] using moves
  | some batch =>
      simpa [front, Moment.commits, Moment.deliveries, Moment.committed, Moment.passed] using moves

theorem outbox_drain (ran : Nat) (failure? : Option Error) :
    (machine.drain ran failure?).engine.store.outbox =
      machine.engine.store.outbox ++
        ((Activity.drain ran failure?).published? machine.engine).toList.filter
          (!·.isEmpty) := by
  have moves := (@moves_drain machine ran failure?).outbox
  cases failure? with
  | some failure => exact moves
  | none =>
      rw [Activity.published?, ← Store.batchOf_eq]
      rw [Activity.moments] at moves
      cases next : machine.engine.nextUnit? with
      | none => simpa [next, Moment.commits, Moment.deliveries, Store.batchOf] using moves
      | some unit =>
          simpa [next, Moment.commits, Moment.deliveries, Moment.committed, Moment.passed]
            using moves

/--
The batch that leaves the outbox with a step, followed by the outbox after it, is the outbox
before it, followed by the batch that is published, unless that is without changes.
-/
theorem outbox_act (agenda : machine.agenda = activity :: rest) :
    machine.delivery?.toList.map Delivery.batch ++
        (act { machine with agenda := rest } activity).engine.store.outbox =
      machine.engine.store.outbox ++ machine.published?.toList.filter (!·.isEmpty) := by
  let working : Machine := { machine with agenda := rest }
  rw [delivery?_of_agenda agenda, published?_of_agenda agenda]
  cases reaches : activity.reachesStore with
  | false =>
      have same : (working.act activity).engine.store = machine.engine.store := store_act reaches
      have neither : activity.delivery? machine.engine = none ∧
          activity.published? machine.engine = none := by
        unfold Activity.delivery? Activity.published?
        constructor
        · split <;> first | rfl | contradiction
        · split <;> first | rfl | contradiction
      rw [neither.1, neither.2]
      exact (congrArg Store.outbox same).trans (List.append_nil _).symm
  | true =>
      cases activity with
      | perform command =>
          cases command with
          | store command => exact @outbox_performStore working command
          | feed command =>
              cases command with
              | publish batch =>
                  show Store.enqueue machine.engine.store.outbox batch = _
                  rw [Store.enqueue]
                  cases batch with
                  | nil => exact (List.append_nil _).symm
                  | cons change others => rfl
              | _ => contradiction
          | _ => contradiction
      | deliver delivered =>
          exact (@outbox_deliver working delivered).trans (List.append_nil _).symm
      | drain ran failure? => exact @outbox_drain working ran failure?
      | _ => contradiction

/-! ## One delivery after the other -/

/-- As many batches were delivered, and the listeners of the last one are being told. -/
structure Delivers (machine : Machine) (delivered : Nat) (rest : List Activity) : Prop where
  flushing : machine.engine.isFlushing = true
  /-- The next delivery comes before anything that stood behind the flush. -/
  agenda : ∃ own, machine.agenda = own ++ .deliver delivered :: rest ∧
    ∀ found ∈ own, found.isDelivery = false
  quiet : ∀ found ∈ rest, found.isFeeding = false

/-- Either nothing is delivered and nothing is owed, or one delivery is under way. -/
inductive Feeding (machine : Machine) : Prop where
  | idle (still : machine.engine.isFlushing = false)
      (quiet : ∀ found ∈ machine.agenda, found.isFeeding = false)
  | busy {delivered : Nat} {rest : List Activity} (delivers : machine.Delivers delivered rest)

/-- A delivery has ended: nothing waits, and the reply is how many batches were delivered. -/
structure Delivered (machine : Machine) (delivered : Nat) (rest : List Activity) : Prop where
  agenda : machine.agenda = rest
  outbox : machine.engine.store.outbox = []
  still : machine.engine.isFlushing = false
  reply : machine.reply = .number delivered

/-- What was passed on, with what is still owed, is what was owed, with what is delivered. -/
def Accounts (machine after : Machine) : Prop :=
  machine.pass?.toList ++ owed after.agenda =
    owed machine.agenda ++ machine.delivery?.toList.flatMap Delivery.passes

/-- An activity that is no delivery comes to activities that pass on, or owe, what it owes. -/
structure Carries (machine : Machine) (activity : Activity) (after : Machine) : Prop where
  isFlushing : after.engine.isFlushing = machine.engine.isFlushing
  agenda : ∃ new, after.agenda = new ++ machine.agenda ∧
    (∀ found ∈ new, found.isDelivery = false) ∧
      activity.pass?.toList ++ owed new = activity.owed?.toList

theorem Adds.carries (adds : machine.Adds after)
    (still : after.engine.isFlushing = machine.engine.isFlushing)
    (passes : activity.pass? = activity.owed?) : machine.Carries activity after := by
  rcases adds with ⟨new, agenda, quiet⟩
  refine ⟨still, new, agenda, ?_, ?_⟩
  · exact fun found member => Activity.isDelivery_of_isFeeding (quiet found member)
  · rw [owed_of_quiet quiet, List.append_nil, passes]

theorem carries_act (other : activity.isDelivery = false)
    (nested : activity = .flush → machine.engine.isFlushing = true) :
    machine.Carries activity (machine.act activity) := by
  cases relays : activity.relays with
  | false =>
      have still := machine.isFlushing_act activity (Activity.delivers_of_relays relays)
      exact (adds_act relays).carries still (Activity.pass?_of_other relays)
  | true =>
      cases activity with
      | flush =>
          rw [act, flush, if_pos (nested rfl)]
          exact (adds_say _).carries rfl rfl
      | tell listener batch =>
          cases listener with
          | registry generation =>
              have still := machine.isFlushing_act (.tell (.registry generation) batch) rfl
              exact (adds_tell_registry generation batch).carries still rfl
          | callback callback =>
              refine ⟨rfl, [.call callback (.changes batch)], rfl, ?_, rfl⟩
              simp [Activity.isDelivery]
      | _ => contradiction

/-- As long as no other batch is delivered, what is owed is passed on. -/
theorem Carries.accounts (agenda : machine.agenda = activity :: rest)
    (carries : Carries { machine with agenda := rest } activity after)
    (other : activity.isDelivery = false) : machine.Accounts after := by
  rcases carries.agenda with ⟨new, goesOn, _, owes⟩
  rw [Accounts, pass?_of_agenda agenda, delivery?_of_agenda agenda,
    Activity.delivery?_of_other other, goesOn, agenda, owed_cons, owed_append, ← owes]
  simp

theorem Feeding.of_carries (carries : Carries { machine with agenda := rest } activity after)
    (still : machine.engine.isFlushing = false)
    (quiet : ∀ found ∈ activity :: rest, found.isFeeding = false) : after.Feeding := by
  rcases carries.agenda with ⟨new, goesOn, none, owes⟩
  rcases List.forall_mem_cons.mp quiet with ⟨first, others⟩
  rw [(Activity.isFeeding_eq_false_iff.mp first).2, Option.toList_none, List.append_eq_nil_iff]
    at owes
  refine .idle (carries.isFlushing.trans still) ?_
  rw [goesOn]
  exact List.forall_mem_append.mpr ⟨quiet_of_owed owes.2 none, others⟩

/-- A flush of a feed that is not being flushed begins a delivery. -/
theorem Feeding.flush (agenda : machine.agenda = .flush :: rest)
    (still : machine.engine.isFlushing = false) (quiet : ∀ found ∈ rest, found.isFeeding = false) :
    let after := act { machine with agenda := rest } .flush
    machine.Accounts after ∧ after.Delivers 0 rest := by
  intro after
  have begins : after =
      { machine with
        engine := { machine.engine with isFlushing := true }, agenda := .deliver 0 :: rest } := by
    subst after
    rw [act, Machine.flush, if_neg (by rw [still]; exact Bool.false_ne_true)]
    rfl
  rw [Accounts, pass?_of_agenda agenda, delivery?_of_agenda agenda, agenda, begins]
  refine ⟨?_, rfl, ⟨[], rfl, List.forall_mem_nil _⟩, quiet⟩
  simp only [owed_cons, owed_of_quiet quiet]
  rfl

/-- A delivery takes the next batch from the outbox, or it ends because there is none. -/
theorem Delivers.deliver {delivered : Nat} (delivers : machine.Delivers delivered rest)
    (agenda : machine.agenda = .deliver delivered :: rest) :
    let after := act { machine with agenda := rest } (.deliver delivered)
    machine.Accounts after ∧
      (after.Delivers (delivered + machine.delivery?.toList.length) rest ∨
        machine.delivery? = none ∧ after.Delivered delivered rest) := by
  intro after
  have owes : owed machine.agenda = [] := by
    rw [agenda, owed_cons, owed_of_quiet delivers.quiet]
    rfl
  rw [Accounts, pass?_of_agenda agenda, owes, delivery?_of_agenda agenda, Activity.delivery?]
  cases outbox : machine.engine.store.outbox with
  | nil =>
      have ended : after =
          { machine with
            engine := { machine.engine with isFlushing := false }
            agenda := rest
            reply := .number delivered } := by
        simp only [after, act, Machine.deliver, outbox]
        rfl
      rw [ended]
      exact ⟨owed_of_quiet delivers.quiet, .inr ⟨rfl, rfl, outbox, rfl, rfl⟩⟩
  | cons batch waiting =>
      let told : List Activity := machine.engine.listeners.all.map (.tell · batch)
      have goesOn : after.engine.isFlushing = machine.engine.isFlushing ∧
          after.agenda = told ++ .deliver (delivered + 1) :: rest := by
        simp only [after, act, Machine.deliver, outbox]
        exact ⟨rfl, List.append_assoc ..⟩
      refine ⟨?_, .inl ⟨goesOn.1.trans delivers.flushing, ⟨told, goesOn.2, ?_⟩, delivers.quiet⟩⟩
      · rw [goesOn.2, owed_append, owed_tells, owed_cons, owed_of_quiet delivers.quiet]
        simp [Activity.pass?, Activity.owed?]
      · exact List.forall_mem_map.mpr fun _ _ => rfl

/-- A delivery goes on with what its listeners do, or with the next batch, or it ends. -/
theorem Delivers.step {delivered : Nat} (delivers : machine.Delivers delivered rest)
    (stepped : machine.step? = some after) :
    machine.Accounts after ∧
      (after.Delivers (delivered + machine.delivery?.toList.length) rest ∨
        machine.delivery? = none ∧ after.Delivered delivered rest) := by
  rcases of_step? stepped with ⟨activity, others, agenda, rfl⟩
  rcases delivers.agenda with ⟨own, found, none⟩
  cases own with
  | nil =>
      rcases List.cons.inj (agenda.symm.trans found) with ⟨rfl, rfl⟩
      exact delivers.deliver agenda
  | cons first own =>
      rcases List.cons.inj (agenda.symm.trans found) with ⟨rfl, rfl⟩
      rcases List.forall_mem_cons.mp none with ⟨other, none⟩
      let working : Machine := { machine with agenda := own ++ .deliver delivered :: rest }
      have carries : working.Carries activity (working.act activity) :=
        carries_act other fun _ => delivers.flushing
      rcases carries.agenda with ⟨new, goesOn, fresh, _⟩
      refine ⟨carries.accounts agenda other, .inl ?_⟩
      rw [delivery?_of_agenda agenda, Activity.delivery?_of_other other]
      refine ⟨carries.isFlushing.trans delivers.flushing, ⟨new ++ own, ?_, ?_⟩, delivers.quiet⟩
      · exact goesOn.trans (List.append_assoc ..).symm
      · exact List.forall_mem_append.mpr ⟨fresh, none⟩

/-- One step keeps the deliveries apart and passes on what is owed. -/
theorem Feeding.step (feeding : machine.Feeding) (stepped : machine.step? = some after) :
    after.Feeding ∧ machine.Accounts after := by
  cases feeding with
  | idle still quiet =>
      rcases of_step? stepped with ⟨activity, rest, agenda, rfl⟩
      rw [agenda] at quiet
      rcases List.forall_mem_cons.mp quiet with ⟨first, others⟩
      by_cases flushes : activity = .flush
      · subst flushes
        rcases Feeding.flush agenda still others with ⟨accounts, delivers⟩
        exact ⟨.busy delivers, accounts⟩
      · have other := Activity.isDelivery_of_isFeeding first
        let working : Machine := { machine with agenda := rest }
        have carries : working.Carries activity (working.act activity) :=
          carries_act other fun is => absurd is flushes
        exact ⟨.of_carries carries still quiet, carries.accounts agenda other⟩
  | busy delivers =>
      rcases delivers.step stepped with ⟨accounts, goesOn | ⟨_, ended⟩⟩
      · exact ⟨.busy goesOn, accounts⟩
      · exact ⟨.idle ended.still (ended.agenda ▸ delivers.quiet), accounts⟩

/-- The feed is marked as being flushed just as long as a delivery is on the agenda. -/
theorem Feeding.isFlushing_iff (feeding : machine.Feeding) :
    machine.engine.isFlushing ↔ ∃ delivered, .deliver delivered ∈ machine.agenda := by
  cases feeding with
  | idle still quiet =>
      rw [still]
      refine ⟨fun marked => absurd marked Bool.false_ne_true, ?_⟩
      rintro ⟨delivered, member⟩
      have isFeeding := quiet _ member
      contradiction
  | @busy delivered rest delivers =>
      rcases delivers.agenda with ⟨own, agenda, _⟩
      refine ⟨fun _ => ⟨delivered, ?_⟩, fun _ => delivers.flushing⟩
      rw [agenda]
      exact List.mem_append_right own List.mem_cons_self

/-- As long as no delivery is under way, nobody is owed a batch. -/
theorem Feeding.owed_of_still (feeding : machine.Feeding)
    (still : machine.engine.isFlushing = false) : owed machine.agenda = [] := by
  cases feeding with
  | idle _ quiet => exact owed_of_quiet quiet
  | busy delivers => exact absurd (still.symm.trans delivers.flushing) Bool.false_ne_true

/-! ## Whole runs -/

/-- What the deliveries on the way have come to. -/
structure Fed (machine : Machine) (past : List Machine) : Prop where
  feeding : machine.Feeding
  numbered : machine.engine.listeners.Numbered
  batches : (gather delivery? past).map Delivery.batch ++ machine.engine.store.outbox =
    (gather published? past).filter (!·.isEmpty)
  passes : gather pass? past ++ owed machine.agenda =
    (gather delivery? past).flatMap Delivery.passes
  /-- Listeners are given a batch in the order in which they came. -/
  ordered : ∀ delivery ∈ gather delivery? past,
    (delivery.listeners.map Prod.fst).Pairwise (· < ·)

theorem fed_idle (name : String) (schema : StoreSchema) (config : Config) :
    (Engine.create name schema config).idle.Fed [] where
  feeding := .idle rfl (List.forall_mem_nil _)
  numbered := Subscribers.empty_numbered
  batches := rfl
  passes := rfl
  ordered := List.forall_mem_nil _

/-- A delivery has the listeners of the machine that begins it. -/
theorem listeners_of_delivery? {delivery : Delivery} (begins : machine.delivery? = some delivery) :
    delivery.listeners = machine.engine.listeners.entries := by
  rcases Option.bind_eq_some_iff.mp begins with ⟨activity, _, begun⟩
  unfold Activity.delivery? at begun
  split at begun
  · rcases Option.map_eq_some_iff.mp begun with ⟨batch, _, rfl⟩
    rfl
  · contradiction

theorem Fed.goes {past : List Machine} (fed : machine.Fed past) (goes : machine.Goes after)
    (numbered : after.engine.listeners.Numbered) : after.Fed (machine :: past) := by
  have ordered : ∀ delivery ∈ gather delivery? (machine :: past),
      (delivery.listeners.map Prod.fst).Pairwise (· < ·) := by
    rw [gather_cons]
    refine List.forall_mem_append.mpr ⟨fed.ordered, fun delivery begins => ?_⟩
    rw [listeners_of_delivery? (Option.mem_toList.mp begins)]
    exact fed.numbered.ascending
  cases goes with
  | step stepped =>
      rcases fed.feeding.step stepped with ⟨feeding, accounts⟩
      refine ⟨feeding, numbered, ?_, ?_, ordered⟩
      · rcases of_step? stepped with ⟨activity, rest, agenda, rfl⟩
        rw [gather_cons, gather_cons, List.map_append, List.append_assoc, outbox_act agenda,
          ← List.append_assoc, fed.batches, List.filter_append]
      · rw [gather_cons, gather_cons, List.append_assoc, accounts, ← List.append_assoc, fed.passes,
          List.flatMap_append]
  | call finished command =>
      have still : machine.engine.isFlushing = false := by
        refine Bool.eq_false_iff.mpr fun marked => ?_
        rcases fed.feeding.isFlushing_iff.mp marked with ⟨delivered, member⟩
        rw [finished] at member
        exact List.not_mem_nil member
      have nothing : machine.published? = none ∧ machine.delivery? = none ∧
          machine.pass? = none := by
        simp only [published?, delivery?, pass?, finished]
        exact ⟨rfl, rfl, rfl⟩
      refine ⟨.idle still (List.forall_mem_singleton.mpr rfl), numbered, ?_, ?_, ordered⟩
      · rw [gather_cons, gather_cons, nothing.1, nothing.2.1, Option.toList_none, List.append_nil,
          Option.toList_none, List.append_nil]
        exact fed.batches
      · have owes := fed.passes
        rw [finished] at owes
        rw [gather_cons, gather_cons, nothing.2.1, nothing.2.2, Option.toList_none, List.append_nil,
          Option.toList_none, List.append_nil]
        exact owes

theorem fed_of_leads {name : String} {schema : StoreSchema} {config : Config}
    {past : List Machine}
    (leads : (Engine.create name schema config).idle.Leads machine past) : machine.Fed past := by
  induction leads with
  | refl => exact fed_idle name schema config
  | @next machine after past leads goes ih =>
      have regular := (regular_idle name schema config).leads leads
      exact ih.goes goes ((goes.turn regular.apart).retains.numbered ih.numbered)

/-- A machine comes to have done what stood before the rest of its agenda, and no more. -/
structure Finishes (rest : List Activity) (machine after : Machine) (since : List Machine) :
    Prop where
  leads : machine.Leads after since
  ends : after.agenda = rest
  within : ∀ passed ∈ since, ∃ own, own ≠ [] ∧ passed.agenda = own ++ rest

/-- What stands behind the first activity of the agenda stays at its end. -/
theorem Goes.untouched {own : List Activity} (goes : machine.Goes after)
    (agenda : machine.agenda = activity :: (own ++ rest)) :
    ∃ own, after.agenda = own ++ rest := by
  rcases act_agenda { machine with agenda := own ++ rest } activity with ⟨new, goesOn⟩
  rw [goes.act_of_agenda agenda]
  exact ⟨new ++ own, goesOn.trans (List.append_assoc ..).symm⟩

/-- As long as the agenda stays longer than the rest, the rest is not touched. -/
theorem finishes_of_longer {first : Machine} {since : List Machine}
    (agenda : first.agenda = activity :: rest) (leads : first.Leads machine since)
    (longer : ∀ passed ∈ since, rest.length < passed.agenda.length)
    (ends : machine.agenda.length = rest.length) : Finishes rest first machine since := by
  have untouched : (∃ own, machine.agenda = own ++ rest) ∧
      ∀ passed ∈ since, ∃ own, own ≠ [] ∧ passed.agenda = own ++ rest := by
    clear ends
    induction leads with
    | refl => exact ⟨⟨[activity], agenda⟩, List.forall_mem_nil _⟩
    | @next machine after since leads goes ih =>
        rcases List.forall_mem_cons.mp longer with ⟨here, longer⟩
        rcases ih longer with ⟨⟨own, found⟩, within⟩
        rw [found, List.length_append] at here
        cases own with
        | nil => exact absurd here (by simp)
        | cons first own =>
            exact ⟨goes.untouched found,
              List.forall_mem_cons.mpr ⟨⟨_, List.cons_ne_nil first own, found⟩, within⟩⟩
  rcases untouched.1 with ⟨own, found⟩
  rw [found, List.length_append] at ends
  have none : own = [] := List.eq_nil_of_length_eq_zero (by omega)
  exact ⟨leads, by rw [found, none, List.nil_append], untouched.2⟩

/-- Where a flush that is not within another one has come to, before it goes behind its end. -/
theorem flush_underway {first : Machine} {since : List Machine}
    (agenda : first.agenda = .flush :: rest) (still : first.engine.isFlushing = false)
    (quiet : ∀ found ∈ rest, found.isFeeding = false) (leads : first.Leads machine since)
    (within : ∀ passed ∈ since, ∃ own, own ≠ [] ∧ passed.agenda = own ++ rest) :
    machine = first ∧ since = [] ∨
      machine.Delivers (gather delivery? since).length rest ∨
        machine.Delivered (gather delivery? since).length rest := by
  induction leads with
  | refl => exact .inl ⟨rfl, rfl⟩
  | @next machine after since leads goes ih =>
      rcases List.forall_mem_cons.mp within with ⟨⟨own, some, found⟩, within⟩
      have goesOn : machine.agenda ≠ rest := by
        rw [found]
        exact fun same => some (List.append_left_eq_self.mp same)
      have stepped : machine.step? = Option.some after := by
        refine goes.stepped fun finished => some ?_
        exact (List.append_eq_nil_iff.mp (found.symm.trans finished)).1
      right
      rcases ih within with ⟨rfl, rfl⟩ | delivers | delivered
      · rw [gather_cons, delivery?_of_agenda agenda, act_of_step? agenda stepped]
        exact .inl (Feeding.flush agenda still quiet).2
      · rw [gather_cons, List.length_append]
        rcases (delivers.step stepped).2 with delivers | ⟨none, ended⟩
        · exact .inl delivers
        · rw [none]
          exact .inr ended
      · exact absurd delivered.agenda goesOn

/-- A flush that comes to its end has delivered all that was waiting. -/
theorem delivered_of_flush {first : Machine} {since : List Machine} (feeding : first.Feeding)
    (agenda : first.agenda = .flush :: rest) (still : first.engine.isFlushing = false)
    (finishes : Finishes rest first machine since) :
    machine.Delivered (gather delivery? since).length rest := by
  have quiet : ∀ found ∈ rest, found.isFeeding = false := by
    cases feeding with
    | idle _ quiet => exact fun found member => quiet found (agenda ▸ List.mem_cons_of_mem _ member)
    | busy delivers => exact absurd (still.symm.trans delivers.flushing) Bool.false_ne_true
  rcases flush_underway agenda still quiet finishes.leads finishes.within with
    ⟨rfl, rfl⟩ | delivers | delivered
  · exact absurd (agenda.symm.trans finishes.ends) (List.cons_ne_self _ _)
  · rcases delivers.agenda with ⟨own, found, _⟩
    rw [finishes.ends, List.append_cons] at found
    exact absurd (List.append_left_eq_self.mp found.symm) (List.append_ne_nil_of_right_ne_nil _
      (List.cons_ne_nil _ _))
  · exact delivered

/-- A flush within a flush ends at once, with the reply zero. -/
theorem flush_within_flush {since : List Machine} (agenda : machine.agenda = .flush :: rest)
    (flushing : machine.engine.isFlushing = true) (finishes : Finishes rest machine after since) :
    after = { machine with agenda := rest, reply := .number 0 } ∧ since = [machine] := by
  let nested : Machine := { machine with agenda := rest, reply := .number 0 }
  have refuses : act { machine with agenda := rest } .flush = nested := by
    rw [act, flush, if_pos flushing]
    rfl
  rcases finishes.leads.onwards with ⟨rfl, rfl⟩ | ⟨second, later, goes, leads, rfl⟩
  · have same := agenda.symm.trans finishes.ends
    exact absurd same (List.cons_ne_self _ _)
  · obtain rfl : second = nested := (goes.act_of_agenda agenda).trans refuses
    rcases leads.onwards with ⟨rfl, rfl⟩ | ⟨third, others, _, _, rfl⟩
    · exact ⟨rfl, rfl⟩
    · rcases finishes.within nested (by simp) with ⟨own, some, found⟩
      exact absurd (List.append_left_eq_self.mp found.symm) some

/--
Whatever is asked of an engine and whatever listeners do when they are given a batch: the
batches that were delivered, followed by those that wait, are the batches that were
published, in this order, but for those without changes.  Batch after batch is passed once to
every listener that there was when it left the outbox, in the order in which they came to
listen, and as long as no delivery is under way, nobody is owed a batch.  A flush within a
flush, which is one behind which a delivery is still on the agenda, delivers nothing and
replies with zero.  Any other flush that comes to its end has left nothing to deliver, has
passed on all that it delivered, and replies with the number of these batches, and the feed is
not marked as being flushed any more.
-/
theorem feed_delivers_in_order {name : String} {schema : StoreSchema} {config : Config}
    {past : List Machine}
    (leads : (Engine.create name schema config).idle.Leads machine past) :
    (gather delivery? past).map Delivery.batch ++ machine.engine.store.outbox =
        (gather published? past).filter (!·.isEmpty) ∧
      gather pass? past ++ owed machine.agenda =
        (gather delivery? past).flatMap Delivery.passes ∧
      (∀ delivery ∈ gather delivery? past,
        (delivery.listeners.map Prod.fst).Pairwise (· < ·)) ∧
      (machine.engine.isFlushing ↔ ∃ delivered, .deliver delivered ∈ machine.agenda) ∧
      (machine.engine.isFlushing = false → owed machine.agenda = []) ∧
      ∀ rest after since, machine.agenda = .flush :: rest → Finishes rest machine after since →
        if machine.engine.isFlushing then
          gather delivery? since = [] ∧ after.engine = machine.engine ∧ after.reply = .number 0
        else
          after.engine.store.outbox = [] ∧ after.engine.isFlushing = false ∧
            after.reply = .number (gather delivery? since).length ∧
            gather pass? since = (gather delivery? since).flatMap Delivery.passes := by
  have fed := fed_of_leads leads
  refine ⟨fed.batches, fed.passes, fed.ordered, fed.feeding.isFlushing_iff,
    fed.feeding.owed_of_still, ?_⟩
  intro rest after since agenda finishes
  split
  · next flushing =>
      rcases flush_within_flush agenda flushing finishes with ⟨rfl, rfl⟩
      rw [gather_cons, delivery?_of_agenda agenda]
      exact ⟨rfl, rfl, rfl⟩
  · next unmarked =>
      have still := Bool.eq_false_iff.mpr unmarked
      have delivered : after.Delivered (gather delivery? since).length rest :=
        delivered_of_flush fed.feeding agenda still finishes
      refine ⟨delivered.outbox, delivered.still, delivered.reply, ?_⟩
      have later := fed_of_leads (leads.append finishes.leads)
      have all := later.passes
      rw [later.feeding.owed_of_still delivered.still, gather_append, gather_append,
        List.flatMap_append, ← fed.passes, fed.feeding.owed_of_still still, List.append_nil,
        List.append_nil] at all
      exact List.append_cancel_left all

/--
A listener publishes a batch, flushes and sends the other listener away when it is given the
first of two batches.
-/
theorem feed_delivers_what_listeners_publish :
    let first : Engine := .create "s" ⟨1, []⟩ .standard
    ∃ flushing past after since rest, first.idle.Leads flushing past ∧
      flushing.agenda = .flush :: rest ∧ flushing.engine.isFlushing = false ∧
        Finishes rest flushing after since ∧ after.reply = .number 2 ∧
          (gather delivery? since).map (·.listeners.map Prod.fst) = [[1, 2], [1]] ∧
            (gather pass? since).length = 3 := by
  intro first
  let change : Change := ⟨"t", .integer 1, none, none⟩
  let busy : Reaction Command :=
    ⟨"b", [.feed (.publish [change]), .feed .flush, .feed (.unlisten 2)], 1⟩
  let setup := course 60 first.idle
    [.feed (.listen busy), .feed (.listen ⟨"l", [], 0⟩), .feed (.publish []),
      .feed (.publish [change])]
  let flushing := walk 3 (walkOn setup .run)
  let after := walk 18 (flushing.1, [])
  have leads : first.idle.Leads flushing.1 flushing.2 :=
    leads_walk 3 (leads_walkOn (leads_course 60 first.idle _) .run)
  have since : flushing.1.Leads after.1 after.2 := leads_walk 18 .refl
  have facts : flushing.1.agenda.head?.any (· matches .flush) ∧
      flushing.1.engine.isFlushing = false ∧
      (∀ passed ∈ after.2, flushing.1.agenda.tail.length < passed.agenda.length) ∧
        after.1.agenda.length = flushing.1.agenda.tail.length ∧
          (gather delivery? after.2).map (·.listeners.map Prod.fst) = [[1, 2], [1]] := by
    subst after flushing setup busy change first
    decide +kernel
  clear_value after flushing
  rcases facts with ⟨flushes, still, longer, ends, listeners⟩
  have agenda : flushing.1.agenda = .flush :: flushing.1.agenda.tail := by
    cases found : flushing.1.agenda with
    | nil =>
        rw [found] at flushes
        contradiction
    | cons activity rest =>
        rw [found] at flushes
        cases activity <;> first | rfl | contradiction
  have finishes := finishes_of_longer agenda since longer ends
  have flushed := (feed_delivers_in_order leads).2.2.2.2.2 _ after.1 after.2 agenda finishes
  rw [still, if_neg Bool.false_ne_true] at flushed
  have lengths : (gather delivery? after.2).map (·.listeners.length) = [2, 1] := by
    simpa [Function.comp_def] using congrArg (List.map List.length) listeners
  have count : (gather delivery? after.2).length = 2 := by
    rw [← List.length_map, lengths]
    rfl
  refine ⟨_, _, _, _, _, leads, agenda, still, finishes, ?_, listeners, ?_⟩
  · rw [flushed.2.2.1, count]
  · rw [flushed.2.2.2, List.length_flatMap]
    simp [Delivery.passes, lengths]

end Machine

end LiveTable
