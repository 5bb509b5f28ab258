import LiveTable.Proofs.Engine.Deliveries

/-!
# What running leaves

Running drains the queue and then flushes the feed.  Draining leaves an empty queue,
and the flush leaves an empty outbox; but what the flush delivers may queue new units,
which nothing runs any more.  That happens if a batch was in the outbox when the run
began and no unit was run after whose end it was delivered.  So only a run that finds
the outbox empty, as a second run does, leaves the engine idle.

The argument follows the agenda of a run.  Until the queue is drained it ends with a
chain of drains, one inside the other, and whatever is done before the chain goes on
ends with a delivery.
-/

set_option autoImplicit false

namespace LiveTable

/-! ## The stages of a run -/

/-- Drains that wait for each other, the last of which is that of the run. -/
inductive DrainChain : List Activity → Prop where
  | outer (ran : Nat) (failure? : Option Error) : DrainChain [.drain ran failure?, .afterDrain]
  | inner (ran : Nat) (failure? : Option Error) {rest : List Activity} (chain : DrainChain rest) :
      DrainChain (.drain ran failure? :: .noteDrained :: rest)

theorem DrainChain.resume
    {ran : Nat} {failure? : Option Error} {rest : List Activity}
    (chain : DrainChain (.drain ran failure? :: rest)) (ranNow : Nat) (failureNow? : Option Error) :
    DrainChain (.drain ranNow failureNow? :: rest) := by
  cases chain with
  | outer => exact .outer ranNow failureNow?
  | inner _ _ chain => exact .inner ranNow failureNow? chain

theorem DrainChain.deliveries {agenda : List Activity} (chain : DrainChain agenda) :
    deliveries agenda = 0 := by
  induction chain with
  | outer ran failure? => rfl
  | inner ran failure? _ ih => simp [ih, Activity.isDelivery]

namespace Machine

/--
How far a run has come.  `began` says what is known from the beginning, which is that the
outbox was empty then, if it was.
-/
inductive Stage (began : Prop) (machine : Machine) : Prop where
  /-- The run has not begun. -/
  | asked (agenda : machine.agenda = [.perform .run])
      (delivered : began → machine.engine.store.outbox = [])
  /-- Something is done that ends with a delivery, and then the chain goes on. -/
  | delivering {before chain : List Activity} {last : Activity}
      (agenda : machine.agenda = before ++ last :: chain) (ends : last.delivers)
      (goesOn : DrainChain chain)
  /-- The chain goes on. -/
  | draining (chain : DrainChain machine.agenda)
      (delivered : began → machine.engine.store.outbox = [])
  /-- A drain inside another has ended. -/
  | drained {chain : List Activity} (agenda : machine.agenda = .noteDrained :: chain)
      (goesOn : DrainChain chain) (delivered : began → machine.engine.store.outbox = [])
  /-- The drain of the run has ended. -/
  | emptied (agenda : machine.agenda = [.afterDrain])
      (delivered : began → machine.engine.store.outbox = [])
      (idle : ∀ ran, machine.reply = .drained (.ok ran) → machine.engine.queue = [])
  /-- The feed is flushed; that delivers nothing if nothing is there to be delivered. -/
  | flushing {before : List Activity} {last : Activity} {reply : Reply}
      (agenda : machine.agenda = before ++ [last, .answer reply]) (ends : last.delivers)
      (idle : began → before = [] ∧ machine.engine.queue = [] ∧ machine.engine.store.outbox = [])
  /-- What is left is the reply, if anything. -/
  | flushed (agenda : machine.agenda = [] ∨ ∃ reply, machine.agenda = [.answer reply])
      (delivered : machine.engine.store.outbox = [])
      (idle : began → machine.engine.queue = [])
  /-- A failure ended the run. -/
  | failed (agenda : machine.agenda = []) (failure : ∀ ran, machine.reply ≠ .drained (.ok ran))

variable {began : Prop} {machine after : Machine}

/-- Any activity puts others in front of the agenda and takes nothing off. -/
theorem act_agenda (machine : Machine) (activity : Activity) :
    ∃ new, (machine.act activity).agenda = new ++ machine.agenda := by
  cases activity with
  | flush =>
      show ∃ new, machine.flush.agenda = _
      rw [flush]
      split
      · exact ⟨[], rfl⟩
      · exact ⟨[.deliver 0], rfl⟩
  | deliver delivered =>
      show ∃ new, (machine.deliver delivered).agenda = _
      simp only [deliver]
      split
      · exact ⟨[], rfl⟩
      · exact ⟨_, rfl⟩
  | tell listener batch =>
      cases listener with
      | registry generation =>
          exact (adds_tell_registry generation batch).imp fun _ added => added.1
      | callback callback => exact ⟨[.call callback (.changes batch)], rfl⟩
  | _ => exact (adds_act rfl).imp fun _ added => added.1

/--
What ends with a delivery goes on to end with one, until it has ended and the outbox is
empty.  A delivery of nothing goes on with nothing.
-/
theorem step_delivering
    {before rest : List Activity} {last : Activity}
    (balanced : machine.Balanced) (stepped : machine.step? = some after)
    (agenda : machine.agenda = before ++ last :: rest) (ends : last.delivers)
    (single : deliveries rest = 0) :
    (∃ new next, after.agenda = new ++ next :: rest ∧ next.delivers ∧
      (before = [] → machine.engine.store.outbox = [] →
        new = [] ∧ after.engine.queue = machine.engine.queue ∧
          after.engine.store.outbox = [])) ∨
    (after.agenda = rest ∧ after.engine.store.outbox = [] ∧
      after.engine.queue = machine.engine.queue) := by
  rcases of_step? stepped with ⟨activity, remaining, first, rfl⟩
  rw [agenda] at first
  cases before with
  | cons head before =>
      rcases List.cons.inj first with ⟨rfl, rfl⟩
      rcases act_agenda { machine with agenda := before ++ last :: rest } head with ⟨new, added⟩
      refine Or.inl ⟨new ++ before, last, ?_, ends, fun none => absurd none (List.cons_ne_nil _ _)⟩
      exact added.trans (List.append_assoc new before _).symm
  | nil =>
      rcases List.cons.inj first with ⟨rfl, rfl⟩
      cases last with
      | flush =>
          have idle : machine.engine.isFlushing = false := by
            rw [Balanced, agenda] at balanced
            cases marked : machine.engine.isFlushing with
            | false => rfl
            | true => simp [marked, single, Activity.isDelivery] at balanced
          refine Or.inl ⟨[], .deliver 0, ?_, rfl, fun _ outbox => ⟨rfl, ?_⟩⟩
          · simp [act, flush, idle, next, become]
          · simp [act, flush, idle, next, become, outbox]
      | deliver delivered =>
          cases outbox : machine.engine.store.outbox with
          | nil =>
              refine Or.inr ?_
              simp [act, deliver, outbox, conclude]
          | cons batch waiting =>
              refine Or.inl ⟨machine.engine.listeners.all.map (.tell · batch),
                .deliver (delivered + 1), ?_, rfl, fun _ none => absurd none (List.cons_ne_nil _ _)⟩
              simp [act, deliver, outbox, next, become]
      | _ => contradiction

/-- A drain that ends leaves the chain that waits for it, or the run emptied. -/
theorem Stage.of_ended
    {ran : Nat} {failure? : Option Error} {rest : List Activity}
    (chain : DrainChain (.drain ran failure? :: rest)) (agenda : machine.agenda = rest)
    (delivered : began → machine.engine.store.outbox = [])
    (idle : ∀ ran, machine.reply = .drained (.ok ran) → machine.engine.queue = []) :
    Stage began machine := by
  subst agenda
  cases agenda : machine.agenda with
  | nil =>
      rw [agenda] at chain
      cases chain
  | cons head rest =>
      rw [agenda] at chain
      cases chain with
      | outer => exact .emptied agenda delivered idle
      | inner _ _ chain => exact .drained agenda chain delivered

theorem outbox_foldl_enqueue (tasks : List Routine) (engine : Engine) :
    (tasks.foldl (fun engine task => engine.enqueue (.routine task)) engine).store.outbox =
      engine.store.outbox := by
  induction tasks generalizing engine with
  | nil => rfl
  | cons task rest ih => exact ih _

/-- A drain ends, or runs a task and goes on, after a delivery if the task was a transaction. -/
theorem Stage.of_drain
    {ran : Nat} {failure? : Option Error} {rest : List Activity}
    (chain : DrainChain (.drain ran failure? :: rest)) (agenda : machine.agenda = rest)
    (delivered : began → machine.engine.store.outbox = []) :
    Stage began (machine.drain ran failure?) := by
  cases failure? with
  | some failure => exact .of_ended chain agenda delivered nofun
  | none =>
      cases queue : machine.engine.queue with
      | nil =>
          rw [drain]
          simp only [queue]
          exact .of_ended chain agenda delivered fun _ _ => queue
      | cons task waiting =>
          cases task with
          | unit executor job clock =>
              rw [drain_unit queue]
              let working := machine.become { machine.engine with queue := waiting }
              cases prepared : working.engine.unit? executor job with
              | none =>
                  rw [runUnit_of_none working prepared]
                  refine .draining ?_ delivered
                  show DrainChain (.drain (ran + 1) none :: machine.agenda)
                  rw [agenda]
                  exact chain.resume _ _
              | some unit =>
                  cases outcome : (working.engine.runUnit unit clock).1 with
                  | ok answer =>
                      rw [runUnit_of_ok working prepared outcome]
                      have told : job.succeed executor answer ++ [.flush, .drain (ran + 1) none] ++
                          machine.agenda =
                          job.succeed executor answer ++ .flush :: .drain (ran + 1) none :: rest := by
                        simp [agenda]
                      exact .delivering told rfl (chain.resume _ _)
                  | error failure =>
                      rw [runUnit_of_error working prepared outcome]
                      have told :
                          job.fail executor failure ++
                              [.flush, .drain (ran + 1) (job.unhandled? failure)] ++
                            machine.agenda =
                          job.fail executor failure ++
                            .flush :: .drain (ran + 1) (job.unhandled? failure) :: rest := by
                        simp [agenda]
                      exact .delivering told rfl (chain.resume _ _)
          | routine routine =>
              simp only [drain, queue]
              refine .draining ?_ fun held => ?_
              · have later := chain.resume (ran + 1) routine.failure?
                rw [← agenda] at later
                simp only [runRoutine]
                split
                · exact .inner 0 none later
                · exact later
              · exact (outbox_foldl_enqueue _ _).trans (delivered held)

/-- Every step of a run is in its stage or in the next. -/
theorem Stage.step
    (stage : Stage began machine) (balanced : machine.Balanced)
    (stepped : machine.step? = some after) :
    Stage began after := by
  cases stage with
  | asked agenda delivered =>
      rcases of_step? stepped with ⟨activity, remaining, first, rfl⟩
      rcases List.cons.inj (agenda.symm.trans first) with ⟨rfl, rfl⟩
      exact .draining (.outer 0 none) delivered
  | delivering agenda ends goesOn =>
      rcases step_delivering balanced stepped agenda ends goesOn.deliveries with
        ⟨new, next, agenda, ends, _⟩ | ⟨agenda, delivered, _⟩
      · exact .delivering agenda ends goesOn
      · rw [← agenda] at goesOn
        exact .draining goesOn fun _ => delivered
  | draining chain delivered =>
      rcases of_step? stepped with ⟨activity, remaining, first, rfl⟩
      rw [first] at chain
      cases activity with
      | drain ran failure? => exact .of_drain chain rfl delivered
      | _ => cases chain
  | drained agenda goesOn delivered =>
      rcases of_step? stepped with ⟨activity, remaining, first, rfl⟩
      rcases List.cons.inj (agenda.symm.trans first) with ⟨rfl, rfl⟩
      exact .draining goesOn delivered
  | emptied agenda delivered idle =>
      rcases of_step? stepped with ⟨activity, remaining, first, rfl⟩
      rcases List.cons.inj (agenda.symm.trans first) with ⟨rfl, rfl⟩
      simp only [act, afterDrain]
      split
      · next ran reply =>
          have follows : [Activity.flush, .answer (.drained (.ok ran))] =
              [] ++ [.flush, .answer (.drained (.ok ran))] := rfl
          exact .flushing follows rfl fun held => ⟨rfl, idle ran reply, delivered held⟩
      · next other => exact .failed rfl other
  | flushing agenda ends idle =>
      rcases step_delivering balanced stepped agenda ends rfl with
        ⟨new, next, agenda, ends, still⟩ | ⟨agenda, delivered, queue⟩
      · refine .flushing agenda ends fun held => ?_
        rcases idle held with ⟨none, queue, outbox⟩
        rcases still none outbox with ⟨rfl, sameQueue, outbox⟩
        exact ⟨rfl, sameQueue.trans queue, outbox⟩
      · exact .flushed (Or.inr ⟨_, agenda⟩) delivered fun held => queue.trans (idle held).2.1
  | flushed agenda delivered idle =>
      rcases of_step? stepped with ⟨activity, remaining, first, rfl⟩
      rcases agenda with agenda | ⟨reply, agenda⟩
      · rw [agenda] at first
        contradiction
      · rcases List.cons.inj (agenda.symm.trans first) with ⟨rfl, rfl⟩
        exact .flushed (Or.inl rfl) delivered idle
  | failed agenda failure =>
      rcases of_step? stepped with ⟨activity, remaining, first, rfl⟩
      rw [agenda] at first
      contradiction

/-- A run that has ended without failure has left nothing undelivered. -/
theorem Stage.ended
    (stage : Stage began machine) (agenda : machine.agenda = []) {ran : Nat}
    (succeeded : machine.reply = .drained (.ok ran)) :
    machine.engine.store.outbox = [] ∧ (began → machine.engine.queue = []) := by
  cases stage with
  | flushed _ delivered idle => exact ⟨delivered, idle⟩
  | failed _ failure => exact absurd succeeded (failure ran)
  | draining chain =>
      rw [agenda] at chain
      cases chain
  | asked shape | delivering shape | drained shape | emptied shape | flushing shape =>
      simp [agenda] at shape

end Machine

/-! ## Between calls -/

namespace Engine

theorem Reachable.run_stage
    {first engine after : Engine} (reachable : first.Reachable engine)
    (idle : first.isFlushing = false) {limit ran : Nat} {log : List Event}
    (called : engine.call? limit .run = some (.drained (.ok ran), log, after)) :
    after.store.outbox = [] ∧ (engine.store.outbox = [] → after.queue = []) := by
  rcases of_call? called with ⟨last, ended, agenda, reply, rfl⟩
  let Kept (machine : Machine) : Prop :=
    machine.Balanced ∧ machine.Stage (engine.store.outbox = [])
  have kept : Kept last := by
    apply Machine.run?_preserves Kept ?_ ?_ ended
    · exact fun kept stepped => ⟨kept.1.step stepped, kept.2.step kept.1 stepped⟩
    · refine ⟨?_, .asked rfl id⟩
      simp [Machine.Balanced, Machine.start, Activity.isDelivery, reachable.not_flushing idle]
  exact kept.2.ended agenda reply

/--
A run that succeeds leaves nothing undelivered, and it leaves no unit either if nothing was
undelivered when it began; so a second run leaves the engine idle.
-/
theorem run_leaves_idle
    {name : String} {schema : StoreSchema} {config : Config} {engine after : Engine}
    (reachable : (create name schema config).Reachable engine)
    {limit ran : Nat} {log : List Event}
    (called : engine.call? limit .run = some (.drained (.ok ran), log, after)) :
    after.store.outbox = [] ∧
      (engine.store.outbox = [] → after.queue = []) ∧
      ∀ {limit ran : Nat} {log : List Event} {last : Engine},
        after.call? limit .run = some (.drained (.ok ran), log, last) →
          last.queue = [] ∧ last.store.outbox = [] := by
  rcases reachable.run_stage rfl called with ⟨delivered, idle⟩
  refine ⟨delivered, idle, ?_⟩
  intro limit ran log last calledAgain
  rcases (reachable.call called).run_stage rfl calledAgain with ⟨deliveredAgain, idleNow⟩
  exact ⟨idleNow delivered, deliveredAgain⟩

/-- An engine with a binding that has run, and a batch that was committed by hand since. -/
def committedByHand : Engine :=
  [.store .ensureOpen, .binding (.create "b" "t" .all), .run,
    .store (.transact .readWrite "t" [⟨.put (.ofList [("id", .integer 1)]) none, false⟩])].foldl
      (afterCall 30) (create "s" ⟨1, [⟨"t", "id", false, []⟩]⟩ .standard)

theorem committedByHand_reachable :
    (create "s" ⟨1, [⟨"t", "id", false, []⟩]⟩ .standard).Reachable committedByHand := by
  rw [committedByHand]
  exact Reachable.start.afterCalls 30 _

/-- How many tasks a run was said to run, and the engine after it; nothing where it fails. -/
def ranTasks? (limit : Nat) (engine : Engine) : Option (Nat × Engine) :=
  match engine.call? limit .run with
  | some (.drained (.ok ran), _, after) => some (ran, after)
  | _ => none

theorem of_ranTasks? {limit ran : Nat} {engine after : Engine}
    (ended : engine.ranTasks? limit = some (ran, after)) :
    ∃ log, engine.call? limit .run = some (.drained (.ok ran), log, after) := by
  rw [ranTasks?] at ended
  split at ended
  · next log _ called =>
      rcases Option.some.inj ended with ⟨rfl, rfl⟩
      exact ⟨log, called⟩
  · contradiction

/-- The run that delivers the batch leaves the unit of the binding in the queue. -/
theorem run_leaves_unit :
    (create "s" ⟨1, [⟨"t", "id", false, []⟩]⟩ .standard).Reachable committedByHand ∧
      ∃ log after, committedByHand.call? 30 .run = some (.drained (.ok 0), log, after) ∧
        after.queue.length = 1 := by
  refine ⟨committedByHand_reachable, ?_⟩
  have verdict : (committedByHand.ranTasks? 30).any fun ended =>
      ended.1 == 0 && ended.2.queue.length == 1 := by
    decide +kernel
  rcases (Option.any_eq_true _ _).mp verdict with ⟨⟨ran, after⟩, ended, found⟩
  simp only [Bool.and_eq_true, beq_iff_eq] at found
  rcases found with ⟨rfl, left⟩
  rcases of_ranTasks? ended with ⟨log, called⟩
  exact ⟨log, after, called, left⟩

/-- The run after that one executes the binding and leaves nothing. -/
theorem second_run_leaves_nothing :
    ∃ ran after ranAgain last,
      committedByHand.ranTasks? 30 = some (ran, after) ∧
        after.ranTasks? 30 = some (ranAgain, last) ∧
        last.queue = [] ∧ last.store.outbox = [] := by
  have verdict : (committedByHand.ranTasks? 30).any fun ended =>
      (ended.2.ranTasks? 30).isSome := by
    decide +kernel
  rcases (Option.any_eq_true _ _).mp verdict with ⟨⟨ran, after⟩, ended, endsAgain⟩
  rcases Option.isSome_iff_exists.mp endsAgain with ⟨⟨ranAgain, last⟩, endedAgain⟩
  rcases of_ranTasks? ended with ⟨log, called⟩
  rcases of_ranTasks? endedAgain with ⟨logAgain, calledAgain⟩
  exact ⟨ran, after, ranAgain, last, ended, endedAgain,
    (run_leaves_idle committedByHand_reachable called).2.2 calledAgain⟩

end Engine

end LiveTable
