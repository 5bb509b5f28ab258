import LiveTable.Proofs.Engine.Runs
import LiveTable.Proofs.Engine.Steadiness
import LiveTable.Proofs.Engine.Work

/-!
# Progress

What a step of a calm machine can do, said once.  A machine is calm if its engine is and
everything on its agenda is quiet.

An activity that reads what a drain came to comes directly after it.  So a drain that
ended well has left no request in the queue, and none has come since.
-/

set_option autoImplicit false

namespace LiveTable

variable {closable : Bool} {limit : Nat}

/-! ## Units -/

namespace Engine

variable {engine : Engine}

theorem transact_eq (engine : Engine) (unit : WorkUnit) (clock : Nat) :
    ((engine.transact unit clock).1.mapError fun failure =>
        failure.error.inTransaction unit.table) = (engine.store.attempt unit).1 ∧
      ∃ now,
        (engine.transact unit clock).2 =
          { engine with store := (engine.store.attempt unit).2, clock := now } := by
  rw [transact]
  cases opening : engine.store.open? with
  | error error =>
      rw [Store.attempt_of_error opening]
      exact ⟨rfl, engine.clock, rfl⟩
  | ok ready =>
      rw [Store.attempt_of_ok opening]
      exact ⟨rfl, elapse_eq _ clock _⟩

/-- Running a unit changes the store as the unit does by itself, and the clock and the monitor. -/
theorem runUnit_eq (engine : Engine) (unit : WorkUnit) (clock : Nat) :
    (engine.runUnit unit clock).1.mapError OperationFailure.error =
        (engine.store.attempt unit).1 ∧
      ∃ monitor now,
        (engine.runUnit unit clock).2 =
          { engine with
            store := (engine.store.attempt unit).2
            monitor := monitor
            clock := now } := by
  rcases engine.startTiming_eq with ⟨started, timed⟩
  rcases engine.startTiming.2.transact_eq unit clock with ⟨outcome, now, worked⟩
  rcases (engine.startTiming.2.transact unit clock).2.finishTiming_eq engine.startTiming.1 with
    ⟨monitor, finished⟩
  constructor
  · have same : engine.startTiming.2.store = engine.store := by rw [timed]
    rw [← same, ← outcome, runUnit]
    dsimp only
    cases (engine.startTiming.2.transact unit clock).1 <;> rfl
  · refine ⟨monitor, now, ?_⟩
    rw [runUnit]
    dsimp only
    rw [finished, worked, timed]

/-- An executor is freed of a unit that has run. -/
theorem peaceful_runUnit (peaceful : engine.Peaceful closable) (unit : WorkUnit)
    (clock executor : Nat) :
    ((engine.runUnit unit clock).2.release executor).Peaceful closable := by
  rcases (engine.runUnit_eq unit clock).2 with ⟨monitor, now, after⟩
  rw [after]
  refine { peaceful with busy := ?_ }
  exact fun id busy => peaceful.busy id (List.mem_filter.mp busy).1

/-- A query that does not erase leaves what is asked of an engine. -/
theorem keeps_runUnit (sound : engine.store.Sound) {descriptor : Descriptor}
    (reads : descriptor.reads) (table : String) (mode : AccessMode) (clock executor : Nat) :
    Keeps closable [] engine
      ((engine.runUnit ⟨table, mode, .query descriptor⟩ clock).2.release executor) := by
  intro peaceful
  refine ⟨peaceful_runUnit peaceful _ clock executor, ?_⟩
  rcases (engine.runUnit_eq ⟨table, mode, .query descriptor⟩ clock).2 with ⟨monitor, now, after⟩
  have erases : descriptor.projection ≠ .erase := by simpa [Descriptor.reads] using reads
  rw [Store.attempt_query sound erases] at after
  rw [after]
  exact .of_kept (.of_opened engine.store) rfl rfl rfl (Nat.le_refl _)

end Engine

/-! ## Calm machines -/

namespace Machine

/-- The reply is what a drain came to, and no request waits if it ended well. -/
def Concluded (machine : Machine) : Prop :=
  ∃ outcome, machine.reply = .drained outcome ∧
    ((∃ ran, outcome = .ok ran) → machine.engine.waiting = [])

/-- A machine in which everything is quiet, and that knows where no request waits. -/
structure Calm (closable : Bool) (machine : Machine) : Prop where
  engine : machine.engine.Calm closable
  agenda : ∀ activity ∈ machine.agenda, activity.Quiet closable
  ordered : List.IsChain Activity.Before machine.agenda
  final : (∃ activity ∈ machine.agenda, activity.isFinal) → machine.engine.waiting = []
  concluded (reads : machine.agenda.head?.any Activity.reads) : machine.Concluded

end Machine

/-! ## What a step can do -/

namespace Machine

/-- A machine with an activity put in front of its agenda. -/
def facing (machine : Machine) (activity : Activity) : Machine :=
  { machine with agenda := activity :: machine.agenda }

theorem facing_rest {machine : Machine} {activity : Activity} {rest : List Activity}
    (agenda : machine.agenda = activity :: rest) :
    facing { machine with agenda := rest } activity = machine := by
  rw [facing, ← agenda]

/-- What carrying out an activity, which has been taken off the agenda, can come to. -/
inductive Progress (closable : Bool) (limit : Nat) (machine : Machine) :
    Activity → Machine → Prop where
  | works {activity : Activity} {after : Machine} (free : activity.isFree)
      (silent : (machine.facing activity).noted? = none) (unsought : activity.sought? = none)
      (works : Works closable limit machine after) :
      Progress closable limit machine activity after
  /-- A failure ends a drain, or there is no task. -/
  | ended (ran : Nat) (failure? : Option Error)
      (idle : failure? = none → machine.engine.queue = []) :
      Progress closable limit machine (.drain ran failure?)
        (machine.say (.drained (failure?.elim (.ok ran) .error)))
  /-- A unit of a binding or of a cache has run, or need not run. -/
  | ran {ran executor clock : Nat} {job : Job} {waiting : List Task} {after : Machine}
      (new : List Activity) (failure? : Option Error)
      (queue : machine.engine.queue = .unit executor job clock :: waiting)
      (object : (Task.unit executor job clock).isOfObject)
      (keeps : Engine.Keeps closable [] { machine.engine with queue := waiting } after.engine)
      (agenda : after.agenda = new ++ .drain (ran + 1) failure? :: machine.agenda)
      (fits : ∀ activity ∈ new, activity.Fits closable 9) :
      Progress closable limit machine (.drain ran none) after
  /-- A request has run. -/
  | asked {ran id clock : Nat} {unit : WorkUnit} {waiting : List Task} (monitor : Monitor)
      (now : Clock)
      (queue : machine.engine.queue = .unit id (.request unit) clock :: waiting) :
      Progress closable limit machine (.drain ran none)
        ((machine.become
          { machine.engine with
            queue := waiting
            busy := machine.engine.busy.filter (· != id)
            store := (machine.engine.store.attempt unit).2
            monitor := monitor
            clock := now }).next
          [.settle id (machine.engine.store.attempt unit).1, .flush, .drain (ran + 1) none])
  /-- The feed is flushed after a drain that ended well. -/
  | concluded {ran : Nat} (reply : machine.reply = .drained (.ok ran)) :
      Progress closable limit machine .afterDrain
        (machine.next [.flush, .answer (.drained (.ok ran))])
  | stopped (reply : ∀ ran, machine.reply ≠ .drained (.ok ran)) :
      Progress closable limit machine .afterDrain machine
  | answered {reply : Reply} :
      Progress closable limit machine (.answer reply) (machine.say reply)
  /-- Tasks are run for the sake of a request whose outcome is not there. -/
  | rerun {activity : Activity} {id : Nat}
      (missing : machine.engine.outcomes.get? id = none)
      (waits : activity = .resolve id ∨
        activity = .recheck id ∧ ∃ error, machine.reply = .drained (.error error)) :
      Progress closable limit machine activity (machine.next (running ++ [.recheck id]))
  /-- The outcome of a request is not there although tasks were run without failure. -/
  | lost {id : Nat} (missing : machine.engine.outcomes.get? id = none)
      (reply : ∀ error, machine.reply ≠ .drained (.error error)) :
      Progress closable limit machine (.recheck id)
        (machine.say (.outcome (some (.error (.invalidOperation "operation did not settle")))))
  | taken {activity : Activity} {id : Nat} {outcome : Except Error Outcome}
      (held : machine.engine.outcomes.get? id = some outcome)
      (wanted : activity.wanted? machine.engine = some id) :
      Progress closable limit machine activity
        (machine.conclude (.outcome (some outcome), (machine.engine.takeOutcome id).2))
  | settled {id : Nat} {outcome : Except Error Outcome} :
      Progress closable limit machine (.settle id outcome) (machine.settle id outcome)
  | delivered {count : Nat} {batch : List Change} {rest : List (List Change)}
      (outbox : machine.engine.store.outbox = batch :: rest) :
      Progress closable limit machine (.deliver count) (machine.deliver count)
  /-- The name of a request is given up when the request is resolved. -/
  | resolves {name : String} {id : Nat}
      (stands : (machine.engine.handles name).request? = some id) :
      Progress closable limit machine (.perform (.request (.resolve name)))
        ((machine.become
          (machine.engine.rename name fun handles => { handles with request? := none })).next
          [.resolve id])

variable {machine : Machine}

/-! ## The queue -/

theorem progress_request {id clock : Nat} {unit : WorkUnit} {waiting : List Task}
    (queue : machine.engine.queue = .unit id (.request unit) clock :: waiting) (ran : Nat) :
    Progress closable limit machine (.drain ran none) (machine.drain ran none) := by
  let working := machine.become { machine.engine with queue := waiting }
  rcases working.engine.runUnit_eq unit clock with ⟨outcome, monitor, now, after⟩
  have asked : Progress closable limit machine (.drain ran none) _ :=
    .asked monitor now queue
  rw [drain_unit queue]
  cases result : (working.engine.runUnit unit clock).1 with
  | ok answer =>
      have settled : (machine.engine.store.attempt unit).1 = .ok answer := by
        rw [result] at outcome
        exact outcome.symm
      rw [runUnit_of_ok working rfl result, after]
      rw [settled] at asked
      exact asked
  | error failure =>
      have settled : (machine.engine.store.attempt unit).1 = .error failure.error := by
        rw [result] at outcome
        exact outcome.symm
      rw [runUnit_of_error working rfl result, after]
      rw [settled] at asked
      exact asked

/-- The unit of a binding or of a cache is a query that does not erase. -/
theorem of_unit?_object {engine : Engine} (peaceful : engine.Peaceful closable)
    {executor clock : Nat} {job : Job} {unit : WorkUnit}
    (object : (Task.unit executor job clock).isOfObject)
    (prepared : engine.unit? executor job = some unit) :
    ∃ table mode descriptor, descriptor.reads ∧ unit = ⟨table, mode, .query descriptor⟩ := by
  cases job with
  | binding =>
      rcases Engine.of_unit?_binding prepared with ⟨binding, held, rfl⟩
      exact ⟨_, _, _, (peaceful.bindings held).1.reads, rfl⟩
  | cache =>
      rcases Option.bind_eq_some_iff.mp prepared with ⟨cache, held, made⟩
      rw [ItemCache.unit?] at made
      split at made
      · contradiction
      · exact ⟨_, _, _, rfl, (Option.some.inj made).symm⟩
  | request unit => contradiction
  | callback unit? callback reports => contradiction

/-- What follows the unit of a binding or of a cache is below the level of the task. -/
theorem fits_told {executor clock : Nat} {job : Job}
    (object : (Task.unit executor job clock).isOfObject)
    (outcome : Except OperationFailure Outcome) :
    ∀ activity ∈ (match outcome with
        | .ok answer => job.succeed executor answer
        | .error failure => job.fail executor failure) ++ [Activity.flush],
      activity.Fits closable 9 := by
  have flush : Activity.flush.Fits closable 9 := ⟨trivial, (by decide : 2 < 9), rfl, rfl, rfl⟩
  rw [List.forall_mem_append, List.forall_mem_singleton]
  refine ⟨?_, flush⟩
  have nothing : ∀ activity ∈ ([] : List Activity), activity.Fits closable 9 :=
    List.forall_mem_nil _
  cases job with
  | binding =>
      rcases outcome with failure | answer
      · exact nothing
      · cases answer with
        | result result =>
            exact List.forall_mem_singleton.mpr ⟨trivial, Nat.lt_succ_self 8, rfl, rfl, rfl⟩
        | _ => exact nothing
  | cache =>
      rcases outcome with failure | answer
      · exact nothing
      · cases answer with
        | result result =>
            exact List.forall_mem_singleton.mpr ⟨trivial, Nat.lt_succ_self 8, rfl, rfl, rfl⟩
        | _ => exact nothing
  | request unit => contradiction
  | callback unit? callback reports => contradiction

theorem progress_object (peaceful : machine.engine.Peaceful closable)
    (sound : machine.engine.store.Sound) {executor clock : Nat} {job : Job} {waiting : List Task}
    (queue : machine.engine.queue = .unit executor job clock :: waiting)
    (object : (Task.unit executor job clock).isOfObject) (ran : Nat) :
    Progress closable limit machine (.drain ran none) (machine.drain ran none) := by
  let working := machine.become { machine.engine with queue := waiting }
  have calm : working.engine.Peaceful closable := { peaceful with }
  have soundWorking : working.engine.store.Sound := sound
  rw [drain_unit queue]
  cases prepared : working.engine.unit? executor job with
  | none =>
      rw [runUnit_of_none working prepared]
      refine .ran [] none queue object ?_ rfl (List.forall_mem_nil _)
      refine .of_same (fun peaceful => { peaceful with busy := ?_ }) rfl rfl rfl rfl (Nat.le_refl _)
      exact fun id busy => peaceful.busy id (List.mem_filter.mp busy).1
  | some unit =>
      rcases of_unit?_object calm object prepared with ⟨table, mode, descriptor, reads, rfl⟩
      have keeps : Engine.Keeps closable [] working.engine _ :=
        Engine.keeps_runUnit soundWorking reads table mode clock executor
      have fits : ∀ activity : Activity, activity ∈ _ → activity.Fits closable 9 :=
        fits_told object (working.engine.runUnit ⟨table, mode, .query descriptor⟩ clock).1
      cases outcome : (working.engine.runUnit ⟨table, mode, .query descriptor⟩ clock).1 with
      | ok answer =>
          rw [outcome] at fits
          rw [runUnit_of_ok working prepared outcome]
          refine .ran (job.succeed executor answer ++ [.flush]) none queue object keeps ?_ fits
          simp [next, become, working]
      | error failure =>
          rw [outcome] at fits
          rw [runUnit_of_error working prepared outcome]
          refine .ran (job.fail executor failure ++ [.flush]) (job.unhandled? failure) queue object
            keeps ?_ fits
          simp [next, become, working]

theorem progress_drain (engine : machine.engine.Calm closable) (ran : Nat)
    (failure? : Option Error) :
    Progress closable limit machine (.drain ran failure?) (machine.drain ran failure?) := by
  cases failure? with
  | some failure =>
      exact .ended ran (some failure) fun none => absurd none (Option.some_ne_none failure)
  | none =>
      cases queue : machine.engine.queue with
      | nil =>
          have said : machine.drain ran none = machine.say (.drained (.ok ran)) := by
            simp only [drain, queue]
          rw [said]
          exact .ended ran none fun _ => queue
      | cons task waiting =>
          have calm : task.isCalm := by
            apply engine.tasks
            rw [queue]
            exact List.mem_cons_self
          cases task with
          | unit executor job clock =>
              cases job with
              | binding => exact progress_object engine.peaceful engine.sound queue rfl ran
              | cache => exact progress_object engine.peaceful engine.sound queue rfl ran
              | request unit => exact progress_request queue ran
              | callback unit? callback reports => contradiction
          | routine routine => contradiction

/-! ## Requests -/

/-- Taking an outcome that is not there leaves what is asked of an engine. -/
theorem keeps_takeOutcome {engine : Engine} {id : Nat}
    (missing : engine.outcomes.get? id = none) :
    Engine.Keeps closable [] engine (engine.takeOutcome id).2 := by
  intro peaceful
  have kept (sought : Nat) :
      (engine.outcomes.erase id).get? sought = engine.outcomes.get? sought := by
    rw [OrderedMap.get?_erase]
    split
    · next same =>
        rw [Std.compare_eq_iff_eq] at same
        rw [same, missing]
    · rfl
  refine ⟨{ peaceful with }, ?_⟩
  exact ⟨.refl _, (List.append_nil _).symm, List.forall_mem_nil _, kept,
    fun stands => stands, Nat.le_refl _⟩

theorem takeOr_of_some {id : Nat} {outcome : Except Error Outcome} (otherwise : Machine → Machine)
    (held : machine.engine.outcomes.get? id = some outcome) :
    machine.takeOr id otherwise =
      machine.conclude (.outcome (some outcome), (machine.engine.takeOutcome id).2) := by
  simp only [takeOr, Engine.takeOutcome, held]

theorem takeOr_of_none {id : Nat} (otherwise : Machine → Machine)
    (missing : machine.engine.outcomes.get? id = none) :
    machine.takeOr id otherwise = otherwise machine := by
  simp only [takeOr, Engine.takeOutcome, missing]

theorem progress_resolve (machine : Machine) (id : Nat) :
    Progress closable limit machine (.resolve id) (machine.resolve id) := by
  rw [resolve]
  cases held : machine.engine.outcomes.get? id with
  | some outcome =>
      rw [takeOr_of_some _ held]
      exact .taken held rfl
  | none =>
      rw [takeOr_of_none _ held]
      exact .rerun held (Or.inl rfl)

theorem progress_recheck (machine : Machine) (id : Nat) :
    Progress closable limit machine (.recheck id) (machine.recheck id) := by
  rw [recheck]
  cases held : machine.engine.outcomes.get? id with
  | some outcome =>
      rw [takeOr_of_some _ held]
      exact .taken held rfl
  | none =>
      rw [takeOr_of_none _ held]
      split
      · next error reply => exact .rerun held (Or.inr ⟨rfl, error, reply⟩)
      · next other => exact .lost held other

/-- A calm command is a submission, or what a step of it can come to is as for any activity. -/
theorem progress_perform (engine : machine.engine.Calm closable) {command : Command}
    (calm : command.Calm closable) (room : 4 < limit)
    (wide : command.isQuiet closable = false → 12 < limit)
    (other : ∀ name? table request, command ≠ .request (.submit name? table request)) :
    Progress closable limit machine (.perform command) (machine.perform command) := by
  by_cases asks : ∃ asked, command = .request asked
  · rcases asks with ⟨asked, rfl⟩
    cases asked with
    | submit name? table request => exact absurd rfl (other name? table request)
    | take name =>
        show Progress closable limit machine _ (machine.performRequest (.take name))
        rw [performRequest]
        cases stands : (machine.engine.handles name).request? with
        | none =>
            have silent : (machine.facing (.perform (.request (.take name)))).noted? = none := by
              simp [noted?, facing, Activity.wanted?, stands]
            exact .works rfl silent rfl (works_say machine _)
        | some id =>
            cases held : machine.engine.outcomes.get? id with
            | some outcome =>
                have wanted :
                    (Activity.perform (.request (.take name))).wanted? machine.engine = some id :=
                  stands
                have progress : Progress closable limit machine _ _ := .taken held wanted
                rw [← held] at progress
                exact progress
            | none =>
                have absent : machine.engine.outcomes.contains id = false := by
                  rw [OrderedMap.contains_eq_isSome, held]
                  rfl
                have silent :
                    (machine.facing (.perform (.request (.take name)))).noted? = none := by
                  simp [noted?, facing, Activity.wanted?, stands, absent]
                exact .works rfl silent rfl (works_conclude (keeps_takeOutcome held))
    | resolve name =>
        show Progress closable limit machine _ (machine.performRequest (.resolve name))
        rw [performRequest]
        cases stands : (machine.engine.handles name).request? with
        | none => exact .works rfl rfl rfl (works_say machine _)
        | some id => exact .resolves stands
  · have silent : (machine.facing (.perform command)).noted? = none := by
      cases command with
      | request asked => exact absurd ⟨asked, rfl⟩ asks
      | _ => rfl
    exact .works rfl silent rfl
      (works_perform engine calm room wide fun asked same => asks ⟨asked, same⟩)

/-! ## Every step -/

theorem progress_act (engine : machine.engine.Calm closable) {activity : Activity}
    (quiet : activity.Quiet closable) :
    Progress closable activity.level machine activity (machine.act activity) := by
  have still : Works closable activity.level machine machine :=
    works_of_engine (Engine.keeps_refl _) rfl
  cases activity with
  | perform command =>
      have loud : command.isQuiet closable := by
        cases quiet with
        | intro quiet _ => exact quiet
      refine progress_perform engine quiet.calm (Nat.lt_succ_self 4) ?_ ?_
      · exact fun notQuiet => absurd loud (by simp [notQuiet])
      · rintro name? table request rfl
        contradiction
  | note label => exact .works rfl rfl rfl (works_of_engine (Engine.keeps_refl _) rfl)
  | answer reply => exact .answered
  | call callback notice => exact .works rfl rfl rfl (works_call quiet notice)
  | flush => exact .works rfl rfl rfl (works_flush machine)
  | deliver count =>
      cases outbox : machine.engine.store.outbox with
      | nil => exact .works rfl rfl rfl (works_deliver_nothing machine outbox count)
      | cons batch rest => exact .delivered outbox
  | tell listener batch => exact .works rfl rfl rfl (works_tell quiet batch)
  | dispatch generation batch => exact .works rfl rfl rfl (works_dispatch machine generation batch)
  | visit generation table =>
      exact .works rfl rfl rfl (works_visit engine.peaceful generation table)
  | letGo held => exact .works rfl rfl rfl (works_of_engine (Engine.keeps_letGo _ held) rfl)
  | alert watcher table => exact .works rfl rfl rfl (works_alert quiet table)
  | drain ran failure? => exact progress_drain engine ran failure?
  | noteDrained => exact .works rfl rfl rfl (works_of_engine (Engine.keeps_refl _) rfl)
  | afterDrain =>
      show Progress closable _ machine _ machine.afterDrain
      rw [afterDrain]
      split
      · next ran reply => exact .concluded reply
      · next other => exact .stopped other
  | resolve id => exact progress_resolve machine id
  | recheck id => exact progress_recheck machine id
  | settle id outcome => exact .settled
  | refresh id result => exact .works rfl rfl rfl (works_refresh engine.peaceful id result)
  | serve id => exact .works rfl rfl rfl (works_serve engine.peaceful id)
  | refill id records => exact .works rfl rfl rfl (works_refill engine.peaceful id records)
  | serveItem id item callback => exact .works rfl rfl rfl (works_serveItem quiet id item)
  | spread id => exact .works rfl rfl rfl (works_spread engine.peaceful id)

end Machine

end LiveTable
