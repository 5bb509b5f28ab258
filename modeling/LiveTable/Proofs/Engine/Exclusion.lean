import LiveTable.Proofs.Engine.Standing

/-!
# One unit at a time

An executor that is given a unit is busy until the unit has run, or was found not to be
needed, or has failed, or could not be run because the store does not open.  While it is
busy it rejects what it is given.  So an executor that is busy has one unit in the queue,
and one that is not has none; when the queue is empty nobody is busy.
-/

set_option autoImplicit false

namespace LiveTable

/-- Whether a task is a unit of an executor. -/
def Task.isUnitOf (executor : Nat) : Task → Bool
  | .unit owner _ _ => owner == executor
  | .routine _ => false

namespace Standing

variable {before after : Standing}

/-- The units of an executor that wait in the queue. -/
def unitsOf (standing : Standing) (executor : Nat) : List Task :=
  standing.queue.filter (Task.isUnitOf executor)

/-- Whoever is busy has one unit in the queue, and nobody else has any. -/
def Exclusive (standing : Standing) : Prop :=
  ∀ executor, (standing.unitsOf executor).length = if executor ∈ standing.busy then 1 else 0

/-- The unit at the head of the queue was the only one of its executor. -/
theorem Exclusive.finish (exclusive : before.Exclusive) {executor clock : Nat} {job : Job}
    {rest : List Task} (queue : before.queue = .unit executor job clock :: rest) :
    Exclusive { before with queue := rest, busy := before.busy.filter (· != executor) } := by
  intro other
  have counted := exclusive other
  simp only [unitsOf, queue, List.filter_cons, Task.isUnitOf, beq_iff_eq] at counted
  simp only [unitsOf, List.mem_filter, bne_iff_ne]
  by_cases own : executor = other
  · -- The count includes the unit that leaves, so nothing is left of the one that there may be.
    rw [if_pos own, List.length_cons] at counted
    rw [if_neg fun busy => busy.2 own.symm]
    split at counted <;> omega
  · rw [if_neg own] at counted
    simpa [Ne.symm own] using counted

theorem Exclusive.shift (exclusive : before.Exclusive) (shift : before.Shift after) :
    after.Exclusive := by
  cases shift with
  | schedule free job clock =>
      next executor =>
      intro other
      have counted := exclusive other
      simp only [unitsOf, List.filter_append, List.length_append] at counted ⊢
      by_cases own : other = executor
      · subst own
        rw [if_neg free] at counted
        simp [Task.isUnitOf, counted]
      · simp [Task.isUnitOf, counted, own, Ne.symm own]
  | enqueue routine =>
      intro other
      simpa [unitsOf, Task.isUnitOf] using exclusive other
  | finish queue => exact exclusive.finish queue
  | pass queue =>
      intro other
      have counted := exclusive other
      rw [unitsOf, queue] at counted
      simpa [unitsOf, Task.isUnitOf] using counted
  | watch | leave | clear | putBy | forget => exact exclusive

end Standing

namespace Engine

/-- The units of an executor that wait in the queue. -/
def unitsOf (engine : Engine) (executor : Nat) : List Task :=
  engine.standing.unitsOf executor

/--
What becomes of a unit that is handed to an executor: an executor that is free takes it, if
it is accepted at all, and has it at the end of the queue; otherwise nothing is queued, and
nobody becomes busy.
-/
structure Submits (engine : Engine) (executor : Nat) (accepts : Prop) (submission : Submission)
    (after : Engine) : Prop where
  scheduled : submission = .scheduled ↔ engine.isBusy executor = false ∧ accepts
  queued : submission = .scheduled →
    after.isBusy executor ∧
      ∃ job clock, after.queue = engine.queue ++ [.unit executor job clock]
  rejected : submission = .rejected → after.queue = engine.queue ∧ after.busy = engine.busy

variable (engine : Engine)

theorem submits_schedule (executor : Nat) (job : Job) :
    engine.Submits executor True (engine.schedule executor job).1
      (engine.schedule executor job).2 := by
  rw [schedule]
  split
  · next busy =>
      exact {
        scheduled := by simp [busy]
        queued := fun taken => Submission.noConfusion taken
        rejected := fun _ => ⟨rfl, rfl⟩ }
  · next free =>
      exact {
        scheduled := by simpa using free
        queued := fun _ => ⟨by simp [isBusy], job, engine.clock.number, rfl⟩
        rejected := fun refused => Submission.noConfusion refused }

variable {engine}

/-- What is not accepted is rejected, and leaves the engine as it was. -/
theorem Submits.refuse {executor : Nat} {accepts : Prop} (refused : ¬accepts) :
    engine.Submits executor accepts .rejected engine where
  scheduled := by simp [refused]
  queued := nofun
  rejected _ := ⟨rfl, rfl⟩

theorem Submits.of_accepted {executor : Nat} {accepts : Prop} {submission : Submission}
    {after : Engine} (submits : engine.Submits executor True submission after)
    (accepted : accepts) : engine.Submits executor accepts submission after where
  scheduled := by rw [submits.scheduled, and_true, and_iff_left accepted]
  queued := submits.queued
  rejected := submits.rejected

/-- An executor that accepts what it is handed is busy afterwards, be it with an earlier unit. -/
theorem Submits.isBusy {executor : Nat} {submission : Submission} {after : Engine}
    (submits : engine.Submits executor True submission after) : after.isBusy executor = true := by
  cases submission with
  | scheduled => exact (submits.queued rfl).1
  | rejected =>
      have notFree : engine.isBusy executor ≠ false := by
        intro free
        have taken := submits.scheduled.mpr ⟨free, trivial⟩
        contradiction
      rw [Engine.isBusy, (submits.rejected rfl).2, ← Engine.isBusy]
      simpa using notFree

theorem submits_requestBinding {id : Nat} {binding : Binding}
    (held : engine.bindings.get? id = some binding) :
    engine.Submits id (binding.isClosed = false) (engine.requestBinding id).1
      (engine.requestBinding id).2 := by
  cases isClosed : binding.isClosed with
  | true =>
      simp only [requestBinding, held, isClosed, if_true]
      exact .refuse Bool.noConfusion
  | false =>
      have scheduled : engine.requestBinding id = engine.schedule id .binding := by
        simp [requestBinding, held, isClosed]
      rw [scheduled]
      exact (engine.submits_schedule id .binding).of_accepted rfl

theorem submits_requestCache {id : Nat} {cache : ItemCache}
    (held : engine.caches.get? id = some cache) :
    engine.Submits id (cache.isClosed = false) (engine.requestCache id).1
      (engine.requestCache id).2 := by
  cases isClosed : cache.isClosed with
  | true =>
      simp only [requestCache, held, isClosed, if_true]
      exact .refuse Bool.noConfusion
  | false =>
      have scheduled : engine.requestCache id = engine.schedule id .cache := by
        simp [requestCache, held, isClosed]
      rw [scheduled]
      exact (engine.submits_schedule id .cache).of_accepted rfl

end Engine

/-! ## Commands -/

namespace Machine

/-- The executor that a command runs operations on is that of the name, or has the next number. -/
theorem submits_run (machine : Machine) (name? : Option String) (table : String)
    (mode : AccessMode) (steps : List OperationStep) (isSkipped : Bool)
    (reaction : Reaction Command) (reportsFailure : Bool) :
    let ran := machine.perform
      (.executor (.run name? table mode steps isSkipped reaction reportsFailure))
    ∃ submission, ran.reply = .scheduling submission true ∧
      machine.engine.Submits (machine.engine.executorOf name?).1 True submission ran.engine := by
  intro ran
  let executor := (machine.engine.executorOf name?).1
  let begun := ((machine.engine.executorOf name?).2.register reaction).2
  let job : Job :=
    .callback (if isSkipped then none else some ⟨table, mode, .operations steps⟩)
      ((machine.engine.executorOf name?).2.register reaction).1 reportsFailure
  have submits : begun.Submits executor True (begun.schedule executor job).1 ran.engine :=
    begun.submits_schedule executor job
  have same : begun.standing = machine.engine.standing := by
    show (machine.engine.executorOf name?).2.standing = _
    rw [Engine.executorOf]
    split <;> rfl
  have queue : begun.queue = machine.engine.queue := congrArg Standing.queue same
  have busy : begun.busy = machine.engine.busy := congrArg Standing.busy same
  refine ⟨(begun.schedule executor job).1, ?_, ?_⟩
  · show Reply.scheduling (begun.schedule executor job).1 (ran.engine.isBusy executor) = _
    rw [submits.isBusy]
  · exact {
      scheduled := by rw [submits.scheduled, Engine.isBusy, busy, Engine.isBusy]
      queued := by
        rw [← queue]
        exact submits.queued
      rejected := by
        rw [← queue, ← busy]
        exact submits.rejected }

end Machine

/-! ## Between the steps -/

/-- Whatever was asked of a new engine, whoever is busy has one unit in its queue. -/
theorem Engine.AtWork.exclusive {name : String} {schema : StoreSchema} {config : Config}
    {machine : Machine} (atWork : (create name schema config).AtWork machine) :
    machine.engine.standing.Exclusive :=
  atWork.keeps (fun exclusive shift => exclusive.shift shift) fun _ => rfl

/--
An executor has at most one unit.  Whatever is asked of a new engine, between any two steps
an executor is busy if it has one unit in the queue, and is free if it has none, so that
nobody is busy when the queue is empty.  Whoever is handed a unit then takes it if and only
if it is free, and what is rejected is not queued; bindings and caches that are closed
accept nothing.
-/
theorem executors_have_one_unit
    {name : String} {schema : StoreSchema} {config : Config} {machine : Machine}
    (atWork : (Engine.create name schema config).AtWork machine) :
    (∀ executor,
      (machine.engine.isBusy executor = true ↔ (machine.engine.unitsOf executor).length = 1) ∧
      (machine.engine.isBusy executor = false ↔ machine.engine.unitsOf executor = [])) ∧
    (machine.engine.queue = [] → ∀ executor, machine.engine.isBusy executor = false) ∧
    (∀ executor job,
      machine.engine.Submits executor True (machine.engine.schedule executor job).1
        (machine.engine.schedule executor job).2) ∧
    (∀ id binding, machine.engine.bindings.get? id = some binding →
      machine.engine.Submits id (binding.isClosed = false) (machine.engine.requestBinding id).1
        (machine.engine.requestBinding id).2) ∧
    (∀ id cache, machine.engine.caches.get? id = some cache →
      machine.engine.Submits id (cache.isClosed = false) (machine.engine.requestCache id).1
        (machine.engine.requestCache id).2) ∧
    ∀ name? table mode steps isSkipped reaction reportsFailure,
      let ran := machine.perform
        (.executor (.run name? table mode steps isSkipped reaction reportsFailure))
      ∃ submission, ran.reply = .scheduling submission true ∧
        machine.engine.Submits (machine.engine.executorOf name?).1 True submission ran.engine := by
  have counts (executor : Nat) :
      (machine.engine.unitsOf executor).length =
        if machine.engine.isBusy executor then 1 else 0 := by
    have counted := atWork.exclusive executor
    have isBusy : machine.engine.isBusy executor ↔ executor ∈ machine.engine.standing.busy :=
      List.contains_iff_mem
    by_cases busy : executor ∈ machine.engine.standing.busy
    · rw [if_pos busy] at counted
      rw [if_pos (isBusy.mpr busy)]
      exact counted
    · rw [if_neg busy] at counted
      rw [if_neg (mt isBusy.mp busy)]
      exact counted
  have free (executor : Nat) :
      machine.engine.isBusy executor = false ↔ machine.engine.unitsOf executor = [] := by
    rw [← List.length_eq_zero_iff, counts]
    cases machine.engine.isBusy executor <;> simp
  refine ⟨?_, ?_, ?_, ?_, ?_, ?_⟩
  · intro executor
    refine ⟨?_, free executor⟩
    rw [counts]
    cases machine.engine.isBusy executor <;> simp
  · intro empty executor
    apply (free executor).mpr
    simp [Engine.unitsOf, Standing.unitsOf, Engine.standing, empty]
  · exact fun executor job => machine.engine.submits_schedule executor job
  · exact fun id binding held => Engine.submits_requestBinding held
  · exact fun id cache held => Engine.submits_requestCache held
  · exact machine.submits_run

/--
A unit that fails waits on a named executor, which rejects a second one.  When the first has
failed, without anybody to be told of it, the executor is free although another unit waits.
-/
theorem executors_have_one_unit_until_failure :
    let first : Engine := .create "s" ⟨1, [⟨"t", "id", false, []⟩]⟩ .standard
    let run (steps : List OperationStep) : Command :=
      .executor (.run (some "e") "t" .readWrite steps false ⟨"r", [], 0⟩ false)
    let asked : List Command :=
      [.executor (.create "e"), run [⟨.fail "no", false⟩], run [],
        .binding (.create "b" "t" .all)]
    let next (machine : Machine) : Machine := machine.step?.getD machine
    let ready := Machine.start (asked.foldl (Engine.afterCall 20) first) .run
    let failed := next (next ready)
    (first.AtWork ready ∧ (ready.engine.unitsOf 1).length = 1 ∧
      ready.engine.isBusy 1 = true ∧ ready.engine.queue.length = 2) ∧
    (first.AtWork failed ∧ failed.engine.isBusy 1 = false ∧ failed.engine.unitsOf 1 = [] ∧
      failed.engine.queue.length = 1) := by
  intro first run asked next ready failed
  have atReady : first.AtWork ready :=
    .start (Engine.Reachable.start.afterCalls 20 asked) .run
  have atFailed : first.AtWork failed := atReady.next.next
  have before : ready.engine.isBusy 1 = true ∧ ready.engine.queue.length = 2 := by
    subst ready asked run first
    decide +kernel
  have after : failed.engine.isBusy 1 = false ∧ failed.engine.queue.length = 1 := by
    subst failed next ready asked run first
    decide +kernel
  rcases before with ⟨busy, waiting⟩
  rcases after with ⟨free, left⟩
  exact ⟨⟨atReady, ((executors_have_one_unit atReady).1 1).1.mp busy, busy, waiting⟩,
    atFailed, free, ((executors_have_one_unit atFailed).1 1).2.mp free, left⟩

end LiveTable
