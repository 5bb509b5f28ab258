import LiveTable.Proofs.Engine.Calmness
import Mathlib.Data.Multiset.DershowitzManna
import Mathlib.Tactic.Abel

/-!
# Calm machines come to an end

The measure of a machine is the multiset of the levels of its agenda, of its queue and of
its outbox.  A step replaces some of them by lower ones.  To run tasks again for the sake
of a request takes that a task has failed; until the failure is read it counts as well.
-/

set_option autoImplicit false

namespace LiveTable

namespace Machine

variable {closable : Bool} {machine after : Machine} {activity : Activity}

/-- The levels of what is to be done. -/
def load (machine : Machine) : Multiset Nat :=
  (machine.agenda.map Activity.level : List Nat) +
    (machine.engine.queue.map Task.level : List Nat) +
    (machine.engine.store.outbox.map fun _ => batchLevel : List Nat)

/-- A failure that is about to be read counts as what it allows for. -/
def heat (machine : Machine) : Multiset Nat :=
  match machine.agenda.head?.any Activity.reads, machine.reply with
  | true, .drained (.error _) => {4}
  | _, _ => 0

/-- What a step makes smaller. -/
def measure (machine : Machine) : Multiset Nat :=
  machine.load + machine.heat

theorem load_facing (machine : Machine) (activity : Activity) :
    (machine.facing activity).load = {activity.level} + machine.load := by
  simp only [load, facing, List.map_cons, ← Multiset.cons_coe, ← Multiset.singleton_add]
  abel

theorem heat_of_loose (loose : Loose machine.agenda) : machine.heat = 0 := by
  rw [heat, loose.head_reads]

theorem heat_of_reply (reply : ∀ error, machine.reply ≠ .drained (.error error)) :
    machine.heat = 0 := by
  rw [heat]
  split
  · next error _ failed => exact absurd failed (reply error)
  · rfl

theorem measure_of_loose (loose : Loose machine.agenda) : machine.measure = machine.load := by
  rw [measure, heat_of_loose loose, add_zero]

theorem measure_of_reply (reply : ∀ error, machine.reply ≠ .drained (.error error)) :
    machine.measure = machine.load := by
  rw [measure, heat_of_reply reply, add_zero]

theorem measure_of_outcome {outcome? : Option (Except Error Outcome)}
    (reply : machine.reply = .outcome outcome?) : machine.measure = machine.load := by
  apply measure_of_reply
  simp [reply]

theorem heat_cases (machine : Machine) : machine.heat = 0 ∨ machine.heat = {4} := by
  rw [heat]
  split
  · exact Or.inr rfl
  · exact Or.inl rfl

/-- Only a failure counts before it is read. -/
theorem reply_of_heat (hot : machine.heat = {4}) :
    ∃ error, machine.reply = .drained (.error error) := by
  by_contra other
  rw [not_exists] at other
  rw [heat_of_reply other] at hot
  exact absurd hot.symm (Multiset.singleton_ne_zero 4)

/-- Before a failure is read it counts. -/
theorem heat_of_error {error : Error} (reply : machine.reply = .drained (.error error))
    (reads : activity.reads) : (machine.facing activity).heat = {4} := by
  simp [heat, facing, reply, reads]

/-- Some levels, one of them the highest, are replaced by lower ones. -/
theorem smaller {Level : Type} [Preorder Level] {before later kept lower former : Multiset Level}
    (top : Level) (beforehand : before = kept + former) (member : top ∈ former)
    (afterwards : later = kept + lower) (below : ∀ level ∈ lower, level < top) :
    Multiset.IsDershowitzMannaLT later before := by
  refine ⟨kept, lower, former, ?_, afterwards, beforehand, fun level among => ⟨top, member, ?_⟩⟩
  · rintro rfl
    exact absurd member (Multiset.notMem_zero top)
  · exact below level among

/-- Some levels are taken away. -/
theorem fewer {Level : Type} [Preorder Level] {before later former : Multiset Level}
    (beforehand : before = later + former) {level : Level} (member : level ∈ former) :
    Multiset.IsDershowitzMannaLT later before :=
  smaller level beforehand member (add_zero later).symm fun other among =>
    absurd among (Multiset.notMem_zero other)

/-- The load after new activities, tasks and batches. -/
theorem load_append {new : List Activity} {added : List Task} {committed : List (List Change)}
    (agenda : after.agenda = new ++ machine.agenda)
    (queue : after.engine.queue = machine.engine.queue ++ added)
    (outbox : after.engine.store.outbox = machine.engine.store.outbox ++ committed) :
    after.load =
      machine.load +
        (((new.map Activity.level : List Nat) + (added.map Task.level : List Nat)) +
          (committed.map fun _ => batchLevel : List Nat)) := by
  simp only [load, agenda, queue, outbox, List.map_append, ← Multiset.coe_add]
  abel

theorem load_of_new {new : List Activity} (agenda : after.agenda = new ++ machine.agenda)
    (queue : after.engine.queue = machine.engine.queue)
    (outbox : after.engine.store.outbox = machine.engine.store.outbox) :
    after.load = machine.load + (new.map Activity.level : List Nat) := by
  simp only [load, agenda, queue, outbox, List.map_append, ← Multiset.coe_add]
  abel

/-- The load with a task in front of the queue. -/
theorem load_of_queue {task : Task} {waiting : List Task}
    (queue : machine.engine.queue = task :: waiting) :
    machine.load =
      (machine.become { machine.engine with queue := waiting }).load + {task.level} := by
  simp only [load, become, queue, List.map_cons, ← Multiset.cons_coe, ← Multiset.singleton_add]
  abel

/-- The load with a batch in front of the outbox. -/
theorem load_of_outbox {batch : List Change} {rest : List (List Change)}
    (outbox : machine.engine.store.outbox = batch :: rest) :
    machine.load =
      (machine.become
        { machine.engine with store := { machine.engine.store with outbox := rest } }).load +
        {batchLevel} := by
  simp only [load, become, outbox, List.map_cons, ← Multiset.cons_coe, ← Multiset.singleton_add]
  abel

/-- A drain replaces the first task of the queue by what has lower levels. -/
theorem Progress.uses_task {ran limit : Nat} {task : Task} {waiting : List Task}
    (progress : Progress closable limit machine (.drain ran none) after)
    (ready : Ready closable machine (.drain ran none))
    (queue : machine.engine.queue = task :: waiting) :
    ∃ lower,
      after.measure =
        (machine.become { machine.engine with queue := waiting }).load + lower ∧
      ∀ level ∈ lower, level < task.level := by
  have engine := ready.engine
  cases progress with
  | works free silent unsought works => contradiction
  | ended ran failure? idle =>
      rw [idle rfl] at queue
      contradiction
  | @ran _ executor clock job _ _ new failure? first object keeps agenda fits =>
      rcases List.cons.inj (first.symm.trans queue) with ⟨rfl, rfl⟩
      have frame := (keeps (engine.dequeue queue).peaceful).2
      have loose : Loose after.agenda := by
        rw [agenda]
        exact loose_append (fine_of_fits fits).loose (loose_cons rfl (ordered_drain ready.ordered))
      refine ⟨((new ++ [Activity.drain (ran + 1) failure?]).map Activity.level : List Nat), ?_, ?_⟩
      · rw [measure_of_loose loose]
        apply load_of_new
        · rw [agenda, List.append_assoc]
          rfl
        · rw [frame.queue, List.append_nil]
          rfl
        · exact frame.store.outbox
      · rw [Task.level_of_isOfObject object]
        simp only [List.map_append, List.map_cons, List.map_nil, ← Multiset.coe_add,
          Multiset.mem_add, Multiset.mem_coe, List.mem_map, List.mem_singleton]
        rintro level (⟨later, member, rfl⟩ | rfl)
        · exact (fits later member).lower
        · cases failure? with
          | none => exact Nat.zero_lt_succ 8
          | some failure => exact (by decide : 5 < 9)
  | @asked _ id clock unit _ monitor now first =>
      rcases List.cons.inj (first.symm.trans queue) with ⟨rfl, rfl⟩
      let told : List Activity :=
        [.settle id (machine.engine.store.attempt unit).1, .flush, .drain (ran + 1) none]
      rcases machine.engine.store.attempt_outbox unit with ⟨committed, outbox⟩
      refine ⟨((told.map Activity.level : List Nat) + ([].map Task.level : List Nat)) +
        (committed.map fun _ => batchLevel : List Nat), ?_, ?_⟩
      · have cold (worked : Engine) : ((machine.become worked).next told).heat = 0 := rfl
        rw [measure, cold, add_zero]
        exact load_append rfl (List.append_nil _).symm outbox
      · have level : (Task.unit id (.request unit) clock).level = 15 := rfl
        rw [level]
        simp [told, Activity.level, batchLevel]
  | rerun missing waits => rcases waits with same | ⟨same, _⟩ <;> contradiction
  | taken held wanted => contradiction

/-! ## Steps -/

theorem measure_facing (machine : Machine) (activity : Activity) :
    (machine.facing activity).measure =
      machine.load + ({activity.level} + (machine.facing activity).heat) := by
  rw [measure, load_facing]
  abel

theorem level_mem (machine : Machine) (activity : Activity) :
    activity.level ∈ ({activity.level} + (machine.facing activity).heat : Multiset Nat) :=
  Multiset.mem_add.mpr (Or.inl (Multiset.mem_singleton_self _))

/-- New activities have lower levels than what was taken off the agenda or than a failure. -/
theorem descends_of_new {new : List Activity} {top : Nat}
    (among : top ∈ ({activity.level} + (machine.facing activity).heat : Multiset Nat))
    (cold : after.measure = after.load) (agenda : after.agenda = new ++ machine.agenda)
    (queue : after.engine.queue = machine.engine.queue)
    (outbox : after.engine.store.outbox = machine.engine.store.outbox)
    (lower : ∀ later ∈ new, later.level < top) :
    Multiset.IsDershowitzMannaLT after.measure (machine.facing activity).measure := by
  apply smaller top (machine.measure_facing activity) among
  · rw [cold, load_of_new agenda queue outbox]
  · simp only [Multiset.mem_coe, List.mem_map]
    rintro level ⟨later, member, rfl⟩
    exact lower later member

/-- Nothing is new on the agenda. -/
theorem descends_of_rest (cold : after.measure = after.load)
    (agenda : after.agenda = machine.agenda)
    (queue : after.engine.queue = machine.engine.queue)
    (outbox : after.engine.store.outbox = machine.engine.store.outbox) :
    Multiset.IsDershowitzMannaLT after.measure (machine.facing activity).measure := by
  have none : after.agenda = [] ++ machine.agenda := agenda
  apply descends_of_new (machine.level_mem activity) cold none queue outbox
  exact List.forall_mem_nil _

/-- A task is replaced by what has lower levels. -/
theorem descends_of_task {task : Task} {waiting : List Task} {lower : Multiset Nat}
    (queue : machine.engine.queue = task :: waiting)
    (later : after.measure =
      (machine.become { machine.engine with queue := waiting }).load + lower)
    (below : ∀ level ∈ lower, level < task.level) :
    Multiset.IsDershowitzMannaLT after.measure (machine.facing activity).measure := by
  have before := machine.measure_facing activity
  rw [load_of_queue queue, add_assoc] at before
  have first : task.level ∈
      ({task.level} + ({activity.level} + (machine.facing activity).heat) : Multiset Nat) :=
    Multiset.mem_add.mpr (Or.inl (Multiset.mem_singleton_self _))
  exact smaller task.level before first later below

/-- A batch is replaced by what has lower levels. -/
theorem descends_of_batch {batch : List Change} {rest : List (List Change)}
    {new : List Activity} {working : Engine}
    (outbox : machine.engine.store.outbox = batch :: rest)
    (taken : working =
      { machine.engine with store := { machine.engine.store with outbox := rest } })
    (cold : ((machine.become working).next new).measure = ((machine.become working).next new).load)
    (lower : ∀ later ∈ new, later.level < batchLevel) :
    Multiset.IsDershowitzMannaLT ((machine.become working).next new).measure
      (machine.facing activity).measure := by
  have before := machine.measure_facing activity
  rw [load_of_outbox outbox, add_assoc, ← taken] at before
  have first : batchLevel ∈
      ({batchLevel} + ({activity.level} + (machine.facing activity).heat) : Multiset Nat) :=
    Multiset.mem_add.mpr (Or.inl (Multiset.mem_singleton_self _))
  apply smaller batchLevel before first
  · rw [cold]
    exact load_of_new rfl rfl rfl
  · simp only [Multiset.mem_coe, List.mem_map]
    rintro level ⟨later, member, rfl⟩
    exact lower later member

/-- A failure that is about to be read goes on counting until it is read. -/
theorem descends_of_failure (machine : Machine) :
    Multiset.IsDershowitzMannaLT machine.measure (machine.facing .afterDrain).measure := by
  have before := machine.measure_facing .afterDrain
  rw [measure]
  rcases machine.heat_cases with cold | hot
  · rw [cold, add_zero]
    exact fewer before (machine.level_mem .afterDrain)
  · rcases reply_of_heat hot with ⟨error, failed⟩
    rw [heat_of_error failed rfl, add_comm {_}, ← add_assoc] at before
    rw [hot]
    exact fewer before (Multiset.mem_singleton_self _)

/-- A step makes the measure smaller. -/
theorem Progress.descends (ready : Ready closable machine activity)
    (progress : Progress closable activity.level machine activity after) :
    Multiset.IsDershowitzMannaLT after.measure (machine.facing activity).measure := by
  have engine := ready.engine
  cases progress with
  | works free silent unsought works =>
      rcases works with @⟨added, new, keeps, room, agenda, fine⟩
      have frame := (keeps engine.peaceful).2
      have loose : Loose after.agenda := by
        rw [agenda]
        exact loose_append fine.loose (loose_of_isFree free ready.ordered)
      have outbox : after.engine.store.outbox = machine.engine.store.outbox ++ [] := by
        rw [frame.store.outbox, List.append_nil]
      apply smaller activity.level (machine.measure_facing activity) (machine.level_mem activity)
      · rw [measure_of_loose loose, load_append agenda frame.queue outbox]
      · simp only [List.map_nil, Multiset.coe_nil, add_zero, Multiset.mem_add, Multiset.mem_coe,
          List.mem_map]
        rintro level (⟨later, member, rfl⟩ | ⟨task, member, rfl⟩)
        · exact fine.lower later member
        · rw [Task.level_of_isOfObject (frame.objects task member)]
          exact room (List.ne_nil_of_mem member)
  | ended ran failure? idle =>
      cases failure? with
      | none =>
          refine descends_of_rest (measure_of_reply ?_) rfl rfl rfl
          simp [say]
      | some failure =>
          apply smaller 5 (machine.measure_facing _) (machine.level_mem _) rfl
          rcases heat_cases (machine.say (.drained (.error failure))) with cold | hot
          · simp [cold]
          · simp [hot]
  | @ran count executor clock job waiting _ new failure? queue object keeps agenda fits =>
      have used : Progress closable 0 machine (.drain count none) after :=
        .ran new failure? queue object keeps agenda fits
      rcases used.uses_task ready queue with ⟨lower, later, below⟩
      exact descends_of_task queue later below
  | @asked ran id clock unit waiting monitor now queue =>
      have used : Progress closable 0 machine (.drain ran none) _ := .asked monitor now queue
      rcases used.uses_task ready queue with ⟨lower, later, below⟩
      exact descends_of_task queue later below
  | @concluded ran reply =>
      have loose : Loose (machine.next [.flush, .answer (.drained (.ok ran))]).agenda :=
        loose_cons rfl (.cons_cons trivial (ordered_answer ready.ordered))
      apply descends_of_new (machine.level_mem _) (measure_of_loose loose) rfl rfl rfl
      simp [Activity.level]
  | stopped reply => exact machine.descends_of_failure
  | @answered reply =>
      have cold : (machine.say reply).measure = (machine.say reply).load := by
        by_cases final : (Activity.answer reply).isFinal
        · apply measure_of_reply
          rintro error same
          obtain rfl : reply = .drained (.error error) := same
          contradiction
        · exact measure_of_loose (loose_of_isFree (isFree_of_not_final final) ready.ordered)
      exact descends_of_rest cold rfl rfl rfl
  | @rerun _ id missing sought =>
      have top : 4 ∈ ({activity.level} + (machine.facing activity).heat : Multiset Nat) := by
        rcases sought with rfl | ⟨rfl, error, reply⟩
        · exact machine.level_mem _
        · rw [heat_of_error reply rfl]
          exact Multiset.mem_add.mpr (Or.inr (Multiset.mem_singleton_self 4))
      have cold : (machine.next (running ++ [.recheck id])).measure =
          (machine.next (running ++ [.recheck id])).load := add_zero _
      apply descends_of_new top cold rfl rfl rfl
      simp [running, Activity.level]
  | lost missing reply => exact descends_of_rest (measure_of_outcome rfl) rfl rfl rfl
  | taken held takes => exact descends_of_rest (measure_of_outcome rfl) rfl rfl rfl
  | settled =>
      exact descends_of_rest (measure_of_loose (loose_of_isFree rfl ready.ordered)) rfl rfl rfl
  | @delivered count batch rest outbox =>
      have fits := fits_delivery engine.peaceful batch (count + 1)
      have loose := loose_append (fine_of_fits fits).loose (loose_of_isFree rfl ready.ordered)
      rw [deliver_of_batch outbox]
      exact descends_of_batch outbox rfl (measure_of_loose loose) fun later member =>
        (fits later member).lower
  | @resolves name id stands =>
      let renamed := machine.become
        (machine.engine.rename name fun handles => { handles with request? := none })
      have cold : (renamed.next [.resolve id]).measure = (renamed.next [.resolve id]).load :=
        add_zero _
      apply descends_of_new (machine.level_mem _) cold rfl rfl rfl
      simp [Activity.level]

/-! ## Runs -/

theorem Calm.descends (calm : machine.Calm closable) (stepped : machine.step? = some after) :
    Multiset.IsDershowitzMannaLT after.measure machine.measure := by
  rcases calm.step stepped with ⟨activity, rest, agenda, ready, progress, _⟩
  have lower := progress.descends ready
  rwa [facing_rest agenda] at lower

theorem Calm.run_descends {last : Machine} {limit : Nat} (calm : machine.Calm closable)
    (ran : machine.run? limit = some last) :
    last.measure = machine.measure ∨
      Multiset.IsDershowitzMannaLT last.measure machine.measure := by
  let Kept (later : Machine) : Prop :=
    later.Calm closable ∧ (later.measure = machine.measure ∨
      Multiset.IsDershowitzMannaLT later.measure machine.measure)
  have kept : Kept last := by
    apply run?_preserves Kept ?_ ⟨calm, Or.inl rfl⟩ ran
    rintro later after ⟨calm, lower⟩ stepped
    have descends := calm.descends stepped
    refine ⟨calm.preserved stepped, Or.inr ?_⟩
    rcases lower with same | lower
    · rwa [same] at descends
    · exact descends.trans lower
  exact kept.2

/-- A machine comes to an end if it does so after its next step. -/
theorem ends_of_step {last : Machine} {least : Nat} (stepped : machine.step? = some after)
    (ends : ∀ limit, least ≤ limit → after.run? limit = some last) :
    ∀ limit, least + 1 ≤ limit → machine.run? limit = some last := by
  intro limit enough
  cases limit with
  | zero => contradiction
  | succ limit =>
      rw [run?, stepped]
      exact ends limit (Nat.le_of_succ_le_succ enough)

/--
A machine comes to an end, and to the same end in any number of steps that is enough, if
every step makes something smaller.
-/
theorem ends_of_descent {Level : Type} [Preorder Level] [WellFoundedLT Level]
    {Kept : Machine → Prop} (size : Machine → Multiset Level)
    (descends : ∀ {machine after : Machine}, Kept machine → machine.step? = some after →
      Kept after ∧ Multiset.IsDershowitzMannaLT (size after) (size machine))
    (kept : Kept machine) : ∃ least last, ∀ limit, least ≤ limit → machine.run? limit = some last := by
  have descent : WellFounded (InvImage Multiset.IsDershowitzMannaLT size) :=
    InvImage.wf size Multiset.wellFounded_isDershowitzMannaLT
  induction machine using descent.induction with
  | _ machine ih =>
      cases stepped : machine.step? with
      | none =>
          refine ⟨0, machine, fun limit _ => ?_⟩
          cases limit with
          | zero =>
              rw [step?] at stepped
              split at stepped
              · next agenda => simp [run?, agenda]
              · contradiction
          | succ limit => rw [run?, stepped]
      | some next =>
          rcases descends kept stepped with ⟨later, smaller⟩
          rcases ih next smaller later with ⟨least, last, ends⟩
          exact ⟨least + 1, last, ends_of_step stepped ends⟩

theorem Calm.ends (calm : machine.Calm closable) :
    ∃ least last, ∀ limit, least ≤ limit → machine.run? limit = some last :=
  ends_of_descent measure
    (fun calm stepped => ⟨calm.preserved stepped, calm.descends stepped⟩) calm

end Machine

end LiveTable
