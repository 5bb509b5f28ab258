import LiveTable.Proofs.Engine.Runs

/-!
# The ledger of requests

What becomes of the requests that run once, as the steps of a machine tell it: they are
submitted, they run, they are given their outcomes, and these are taken.
-/

set_option autoImplicit false

namespace LiveTable

/-- What can become of a request. -/
inductive Entry where
  | submitted (id : Nat) (unit : WorkUnit)
  | ran (id : Nat) (unit : WorkUnit)
  | settled (id : Nat) (outcome : Except Error Outcome)
  | taken (id : Nat)

/-- What has become of requests so far, each list in the order of events. -/
structure Ledger where
  submitted : List (Nat × WorkUnit)
  ran : List (Nat × WorkUnit)
  settled : List (Nat × Except Error Outcome)
  taken : List Nat

namespace Ledger

/-- Nothing has happened. -/
def empty : Ledger :=
  ⟨[], [], [], []⟩

/-- The ledger with one more entry. -/
def add (ledger : Ledger) : Entry → Ledger
  | .submitted id unit => { ledger with submitted := ledger.submitted ++ [(id, unit)] }
  | .ran id unit => { ledger with ran := ledger.ran ++ [(id, unit)] }
  | .settled id outcome => { ledger with settled := ledger.settled ++ [(id, outcome)] }
  | .taken id => { ledger with taken := ledger.taken ++ [id] }

end Ledger

/-- The number and the unit of a request that waits. -/
def Task.asked? : Task → Option (Nat × WorkUnit)
  | .unit id (.request asked) _ => some (id, asked)
  | _ => none

/-- The request whose outcome an activity takes if it is there. -/
def Activity.wanted? (engine : Engine) : Activity → Option Nat
  | .resolve id | .recheck id => some id
  | .perform (.request (.take name)) => (engine.handles name).request?
  | _ => none

namespace Machine

/-- What the next step of a machine makes of a request. -/
def noted? (machine : Machine) : Option Entry :=
  match machine.agenda with
  | [] => none
  | .perform (.request (.submit _ table request)) :: _ =>
    some (.submitted machine.engine.nextId ⟨table, request.mode, request⟩)
  | .drain _ none :: _ =>
    (machine.engine.queue.head?.bind Task.asked?).map fun asked => .ran asked.1 asked.2
  | .settle id outcome :: _ => some (.settled id outcome)
  | activity :: _ =>
    ((activity.wanted? machine.engine).filter machine.engine.outcomes.contains).map .taken

/-- The ledger after the next step of a machine. -/
def enter (machine : Machine) (ledger : Ledger) : Ledger :=
  machine.noted?.elim ledger ledger.add

/-- The ledger after a run. -/
def ledgerAfter : Nat → Machine → Ledger → Ledger
  | 0, _, ledger => ledger
  | limit + 1, machine, ledger =>
    match machine.step? with
    | none => ledger
    | some next => ledgerAfter limit next (machine.enter ledger)

/-- What every step keeps of a machine and its ledger, a run keeps. -/
theorem run?_ledger {machine last : Machine} {ledger : Ledger} {limit : Nat}
    (Kept : Machine → Ledger → Prop)
    (step : ∀ {machine after : Machine} {ledger : Ledger}, Kept machine ledger →
      machine.step? = some after → Kept after (machine.enter ledger))
    (kept : Kept machine ledger) (ran : machine.run? limit = some last) :
    Kept last (machine.ledgerAfter limit ledger) := by
  induction limit generalizing machine ledger with
  | zero =>
      rw [run?] at ran
      split at ran
      · rcases Option.some.inj ran with rfl
        exact kept
      · contradiction
  | succ limit ih =>
      rw [run?] at ran
      rw [ledgerAfter]
      cases stepped : machine.step? with
      | none =>
          rw [stepped] at ran
          rcases Option.some.inj ran with rfl
          exact kept
      | some next =>
          rw [stepped] at ran
          exact ih (step kept stepped) ran

end Machine

end LiveTable
