import LiveTable.Proofs.Engine.Submission

/-!
# Emptying the queue

A run that ends without failure leaves no request waiting.  A run that stops at the
failure of a task has used up a task at least, so no more than some number of runs is
needed until no request waits.
-/

set_option autoImplicit false

namespace LiveTable

variable {closable : Bool} {limit : Nat}

namespace Machine

variable {machine after last : Machine}

/-! ## Runs without failure -/

/-- What is known of requests that wait while tasks are run. -/
inductive Emptying (machine : Machine) : Prop where
  | running {new : List Activity} (agenda : machine.agenda = new ++ [.afterDrain])
  | emptied (waiting : machine.engine.waiting = [])
  | failed (agenda : machine.agenda = []) (reply : ∀ ran, machine.reply ≠ .drained (.ok ran))

theorem Emptying.step (emptying : machine.Emptying) (calm : machine.Calm closable)
    (stepped : machine.step? = some after) : after.Emptying := by
  rcases calm.step stepped with ⟨activity, rest, agenda, ready, progress, _⟩
  cases emptying with
  | @running new shape =>
      rw [agenda] at shape
      cases new with
      | nil =>
          rcases List.cons.inj shape with ⟨rfl, rfl⟩
          cases progress with
          | works free silent unsought works => contradiction
          | @concluded ran reply =>
              apply Emptying.emptied
              rcases ready.concluded rfl with ⟨outcome, replied, ended⟩
              exact ended ⟨ran, Reply.drained.inj (replied.symm.trans reply)⟩
          | stopped reply => exact .failed rfl reply
          | rerun missing waits => rcases waits with same | ⟨same, _⟩ <;> contradiction
          | taken held wanted => contradiction
      | cons first new =>
          rcases List.cons.inj shape with ⟨rfl, rest⟩
          rcases progress.agenda ready.engine with ⟨added, grown, _⟩
          have shape : after.agenda = (added ++ new) ++ [.afterDrain] := by
            rw [grown, List.append_assoc]
            exact congrArg (added ++ ·) rest
          exact .running shape
  | emptied waiting =>
      apply Emptying.emptied
      rcases progress.waiting ready.engine with same | ⟨id, unit, one⟩
      · exact same.trans waiting
      · rw [show machine.engine.waiting = [] from waiting] at one
        contradiction
  | failed none reply =>
      rw [agenda] at none
      contradiction

/-! ## Runs that fail -/

theorem step?_run (engine : Engine) :
    (start engine .run).step? = some ⟨engine, running, .nothing, []⟩ :=
  rfl

end Machine

theorem Task.low (task : Task) : 9 ≤ task.level := by
  cases task with
  | unit executor job clock => cases job <;> exact Nat.le_of_ble_eq_true rfl
  | routine routine => exact Nat.le_of_ble_eq_true rfl

namespace Engine

variable {engine after : Engine} {reply : Reply} {log : List Event}

/-- The levels of what an engine is to do. -/
def load (engine : Engine) : Multiset Nat :=
  Machine.load ⟨engine, [], .nothing, []⟩

theorem run_calm : Command.Calm closable .run :=
  Command.calm_of_silent rfl rfl

theorem Calm.start_run (calm : engine.Calm closable) :
    Machine.Calm closable ⟨engine, Machine.running, .nothing, []⟩ := by
  rcases Machine.opened_start calm run_calm with ⟨first, stepped, _, calmFirst⟩
  rcases Option.some.inj (stepped.symm.trans (Machine.step?_run engine)) with rfl
  exact calmFirst

theorem of_run_call? (called : engine.call? limit .run = some (reply, log, after)) :
    ∃ limit last, Machine.run? limit ⟨engine, Machine.running, .nothing, []⟩ = some last ∧
      last.reply = reply ∧ last.engine = after := by
  rcases of_call? called with ⟨last, ran, _, replied, engine⟩
  cases limit with
  | zero => contradiction
  | succ limit =>
      rw [Machine.run?, Machine.step?_run] at ran
      exact ⟨limit, last, ran, replied, engine⟩

/-- A run that ends without failure leaves no request waiting. -/
theorem Calm.run_empties (calm : engine.Calm closable) {ran : Nat}
    (called : engine.call? limit .run = some (.drained (.ok ran), log, after)) :
    after.waiting = [] := by
  rcases of_run_call? called with ⟨limit, last, ended, reply, rfl⟩
  let Kept (machine : Machine) : Prop := machine.Calm closable ∧ machine.Emptying
  have kept : Kept last := by
    have begun : Machine.running = [.drain 0 none] ++ [.afterDrain] := rfl
    apply Machine.run?_preserves Kept ?_ ⟨calm.start_run, .running begun⟩ ended
    rintro machine after ⟨calm, emptying⟩ stepped
    exact ⟨calm.preserved stepped, emptying.step calm stepped⟩
  cases kept.2 with
  | @running new agenda =>
      rw [Machine.run?_agenda ended] at agenda
      exact absurd agenda.symm (List.append_ne_nil_of_right_ne_nil new (List.cons_ne_nil _ []))
  | emptied waiting => exact waiting
  | failed _ failure => exact absurd reply (failure ran)

theorem measure_of_ended {last : Machine} (ended : last.agenda = []) :
    last.measure = last.engine.load := by
  rw [Machine.measure, Machine.heat, ended, load, Machine.load, Machine.load, ended]
  exact add_zero _

/-- The first step of a run takes a task off the queue. -/
theorem Calm.first_lightens (calm : engine.Calm closable) {task : Task} {waiting : List Task}
    (queue : engine.queue = task :: waiting) {begun : Machine}
    (stepped : Machine.step? ⟨engine, Machine.running, .nothing, []⟩ = some begun) :
    Multiset.IsDershowitzMannaLT begun.measure engine.load := by
  rcases calm.start_run.step stepped with ⟨activity, rest, agenda, ready, progress, _⟩
  rcases List.cons.inj agenda with ⟨rfl, rfl⟩
  rcases progress.uses_task ready queue with ⟨lower, later, below⟩
  let idle : Machine := ⟨{ engine with queue := waiting }, [], .nothing, []⟩
  have beforehand : engine.load = idle.load + {task.level} := Machine.load_of_queue queue
  have afterwards : begun.measure = idle.load + ({3} + lower) := by
    rw [later, ← add_assoc, add_comm idle.load]
    exact congrArg (· + lower) (idle.load_facing .afterDrain)
  apply Machine.smaller task.level beforehand (Multiset.mem_singleton_self _) afterwards
  intro level among
  rcases Multiset.mem_add.mp among with last | new
  · rw [Multiset.mem_singleton.mp last]
    exact Nat.lt_of_lt_of_le (by decide) task.low
  · exact below level new

/-- A run uses up a task at least, and what it queues in turn is less. -/
theorem Calm.run_lightens (calm : engine.Calm closable) {task : Task} {waiting : List Task}
    (queue : engine.queue = task :: waiting)
    (called : engine.call? limit .run = some (reply, log, after)) :
    Multiset.IsDershowitzMannaLT after.load engine.load := by
  rcases of_run_call? called with ⟨limit, last, ended, _, rfl⟩
  rw [← measure_of_ended (Machine.run?_agenda ended)]
  cases limit with
  | zero => contradiction
  | succ limit =>
      rw [Machine.run?] at ended
      split at ended
      · contradiction
      · next begun stepped =>
          have lighter := calm.first_lightens queue stepped
          rcases (calm.start_run.preserved stepped).run_descends ended with same | lower
          · rwa [same]
          · exact lower.trans lighter

end Engine

end LiveTable
