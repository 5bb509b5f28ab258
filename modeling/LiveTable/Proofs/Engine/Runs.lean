import LiveTable.Engine.Run

/-!
# Runs of a machine

A run is a number of steps, each of which takes one activity off the agenda, and ends
with an empty agenda.  What every step keeps, a run keeps; what every command keeps
that is carried out on an engine, all engines have that commands lead to.
-/

set_option autoImplicit false

namespace LiveTable

namespace Machine

variable {machine after last : Machine} {limit : Nat}

/-- A step carries out the first activity of the agenda. -/
theorem of_step? (stepped : machine.step? = some after) :
    ∃ activity rest, machine.agenda = activity :: rest ∧
      after = act { machine with agenda := rest } activity := by
  rw [step?] at stepped
  split at stepped
  · contradiction
  · next activity rest agenda => exact ⟨activity, rest, agenda, (Option.some.inj stepped).symm⟩

/-- What a step comes to, where the first activity of the agenda is known. -/
theorem act_of_step? {activity : Activity} {rest : List Activity}
    (agenda : machine.agenda = activity :: rest) (stepped : machine.step? = some after) :
    after = act { machine with agenda := rest } activity := by
  rcases of_step? stepped with ⟨first, others, is, rfl⟩
  rcases List.cons.inj (agenda.symm.trans is) with ⟨rfl, rfl⟩
  rfl

/-- A machine with nothing on its agenda has come to its end. -/
theorem step?_of_ended (ended : machine.agenda = []) : machine.step? = none := by
  simp only [step?, ended]

theorem run?_preserves
    (Kept : Machine → Prop)
    (step : ∀ {machine after : Machine}, Kept machine → machine.step? = some after → Kept after)
    (kept : Kept machine) (ran : machine.run? limit = some last) :
    Kept last := by
  induction limit generalizing machine with
  | zero =>
      rw [run?] at ran
      split at ran
      · rcases Option.some.inj ran with rfl
        exact kept
      · contradiction
  | succ limit ih =>
      rw [run?] at ran
      split at ran
      · rcases Option.some.inj ran with rfl
        exact kept
      · next stepped => exact ih (step kept stepped) ran

theorem run?_agenda (ran : machine.run? limit = some last) : last.agenda = [] := by
  induction limit generalizing machine with
  | zero =>
      rw [run?] at ran
      split at ran
      · next done =>
          rcases Option.some.inj ran with rfl
          exact List.isEmpty_iff.mp done
      · contradiction
  | succ limit ih =>
      rw [run?] at ran
      split at ran
      · next stepped =>
          rcases Option.some.inj ran with rfl
          rw [step?] at stepped
          split at stepped
          · assumption
          · contradiction
      · exact ih ran

/-! ## Units -/

theorem drain_unit
    {executor clock : Nat} {job : Job} {waiting : List Task}
    (queue : machine.engine.queue = .unit executor job clock :: waiting) (ran : Nat) :
    machine.drain ran none =
      (machine.become { machine.engine with queue := waiting }).runUnit executor job clock
        (ran + 1) := by
  simp only [Machine.drain, queue]

theorem runUnit_of_none
    (machine : Machine) {executor : Nat} {job : Job}
    (prepared : machine.engine.unit? executor job = none) (clock ran : Nat) :
    machine.runUnit executor job clock ran =
      (machine.become (machine.engine.release executor)).next [.drain ran none] := by
  simp only [runUnit, prepared]

theorem runUnit_of_ok
    (machine : Machine) {executor clock : Nat} {job : Job} {unit : WorkUnit} {answer : Outcome}
    (prepared : machine.engine.unit? executor job = some unit)
    (outcome : (machine.engine.runUnit unit clock).1 = .ok answer) (ran : Nat) :
    machine.runUnit executor job clock ran =
      (machine.become ((machine.engine.runUnit unit clock).2.release executor)).next
        (job.succeed executor answer ++ [.flush, .drain ran none]) := by
  simp only [runUnit, prepared, outcome]

theorem runUnit_of_error
    (machine : Machine) {executor clock : Nat} {job : Job} {unit : WorkUnit}
    {failure : OperationFailure}
    (prepared : machine.engine.unit? executor job = some unit)
    (outcome : (machine.engine.runUnit unit clock).1 = .error failure) (ran : Nat) :
    machine.runUnit executor job clock ran =
      (machine.become ((machine.engine.runUnit unit clock).2.release executor)).next
        (job.fail executor failure ++ [.flush, .drain ran (job.unhandled? failure)]) := by
  simp only [runUnit, prepared, outcome]

end Machine

namespace Engine

/-- The engines that commands lead to. -/
inductive Reachable (first : Engine) : Engine → Prop where
  | start : Reachable first first
  | call {engine after : Engine} {command : Command} {limit : Nat} {reply : Reply}
      {log : List Event} (reachable : Reachable first engine)
      (called : engine.call? limit command = some (reply, log, after)) :
      Reachable first after

/-- The engine after a command that takes no more than `limit` steps. -/
def afterCall (limit : Nat) (engine : Engine) (command : Command) : Engine :=
  ((engine.call? limit command).map (·.2.2)).getD engine

theorem Reachable.afterCall
    {first engine : Engine} (reachable : first.Reachable engine) (limit : Nat) (command : Command) :
    first.Reachable (engine.afterCall limit command) := by
  rw [Engine.afterCall]
  cases called : engine.call? limit command with
  | none => exact reachable
  | some answer => exact reachable.call called

theorem Reachable.afterCalls
    {first engine : Engine} (reachable : first.Reachable engine) (limit : Nat)
    (commands : List Command) :
    first.Reachable (commands.foldl (Engine.afterCall limit) engine) := by
  induction commands generalizing engine with
  | nil => exact reachable
  | cons command rest ih => exact ih (reachable.afterCall limit command)

/-- A call is a run of the machine that is to carry out the command. -/
theorem of_call?
    {engine after : Engine} {command : Command} {limit : Nat} {reply : Reply} {log : List Event}
    (called : engine.call? limit command = some (reply, log, after)) :
    ∃ last, (Machine.start engine command).run? limit = some last ∧ last.agenda = [] ∧
      last.reply = reply ∧ last.engine = after := by
  rcases Option.map_eq_some_iff.mp called with ⟨last, ran, made⟩
  simp only [Prod.mk.injEq] at made
  exact ⟨last, ran, Machine.run?_agenda ran, made.1, made.2.2⟩

end Engine

end LiveTable
