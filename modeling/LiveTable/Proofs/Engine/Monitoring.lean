import LiveTable.Proofs.Engine.Courses
import LiveTable.Proofs.Engine.Foundation
import LiveTable.Proofs.Engine.Timings

/-!
# Units that are timed

An engine times a unit from before its transaction to after it, in one step, while its monitor is
on; nothing else that an engine does touches the monitor, but replacing the clock, with which a
new monitor begins.

So between two steps no transaction is under way, and the monitor has as many fulfilled
transactions as units were run with the monitor on since the clock was replaced.
-/

set_option autoImplicit false

namespace LiveTable

/-! ## What leaves the monitor alone -/

/-- Whether an activity acts on the monitor itself: what replaces the clock, and what runs units. -/
def Activity.reachesMonitor : Activity → Bool
  | .perform (.clock (.start _)) | .drain _ _ => true
  | _ => false

namespace Engine

theorem monitor_elapse (engine : Engine) (clock : Nat) (answers : List Answer) :
    (engine.elapse clock answers).monitor = engine.monitor :=
  monitor_of_foundation (engine.foundation_elapse clock answers)

theorem monitor_transact (engine : Engine) (unit : WorkUnit) (clock : Nat) :
    (engine.transact unit clock).2.monitor = engine.monitor := by
  rw [transact]
  split
  · rfl
  · exact monitor_elapse _ clock _

end Engine

namespace Machine

variable {machine : Machine}

theorem monitor_performStore (command : StoreCommand) :
    (machine.performStore command).engine.monitor = machine.engine.monitor := by
  cases command with
  | ensureOpen =>
      rw [performStore]
      split <;> rfl
  | close => rfl
  | block reason? => rfl
  | transact mode table steps => exact Engine.monitor_elapse _ _ _

/-- An activity that does not act on the monitor itself leaves it alone. -/
theorem monitor_act {activity : Activity} (other : activity.reachesMonitor = false) :
    (machine.act activity).engine.monitor = machine.engine.monitor := by
  cases founded : activity.reachesFoundation with
  | false => exact Engine.monitor_of_foundation (foundation_act founded)
  | true =>
      cases activity with
      | perform command =>
          cases command with
          | store command => exact monitor_performStore command
          | feed command => cases command <;> rfl
          | clock command => cases command <;> contradiction
          | _ => contradiction
      | flush =>
          simp only [act, flush]
          split <;> rfl
      | deliver delivered =>
          simp only [act, deliver]
          split <;> rfl
      | _ => contradiction

/-! ## What a step does to the monitor -/

/-- The next step replaces the clock, and the monitor with it. -/
def restartsClock (machine : Machine) : Bool :=
  match machine.agenda with
  | .perform (.clock (.start _)) :: _ => true
  | _ => false

/-- The next step runs a unit while the monitor is on. -/
def timesUnit (machine : Machine) : Bool :=
  machine.engine.isMonitoring && machine.unitRun?.isSome

/-- One step leaves the monitor alone, begins a new one, or has it time a transaction. -/
inductive Times (machine after : Machine) : Prop where
  | nothing (goesOn : machine.restartsClock = false) (times : machine.timesUnit = false)
      (monitor : after.engine.monitor = machine.engine.monitor)
  | restart (restarts : machine.restartsClock = true) (window : Nat)
      (monitor : after.engine.monitor = .fresh window)
  | unit (goesOn : machine.restartsClock = false) (times : machine.timesUnit = true)
      (begun ended : Binary64)
      (monitor : after.engine.monitor =
        (machine.engine.monitor.start begun).2.afterFinish ended machine.engine.monitor.nextId)

theorem timesUnit_eq_false (drainsNot : ∀ ran rest, machine.agenda ≠ .drain ran none :: rest) :
    machine.timesUnit = false := by
  rw [timesUnit, unitRun?]
  split
  · next agenda _ => exact absurd agenda (drainsNot _ _)
  · exact Bool.and_false _

end Machine

namespace Engine

variable {engine : Engine}

theorem monitor_finishTiming (engine : Engine) (id : Nat) :
    (engine.finishTiming (some id)).monitor =
      engine.monitor.afterFinish engine.clock.now id := by
  rw [finishTiming, Monitor.afterFinish]
  cases engine.monitor.finish engine.clock.now id <;> rfl

/-- A unit that runs while the monitor is on is timed, whether it fails or not. -/
theorem monitor_runUnit_on (on : engine.isMonitoring = true) (unit : WorkUnit) (clock : Nat) :
    ∃ begun ended, (engine.runUnit unit clock).2.monitor =
      (engine.monitor.start begun).2.afterFinish ended engine.monitor.nextId := by
  have started : engine.startTiming = (some engine.monitor.nextId,
      { engine with monitor := (engine.monitor.start engine.clock.now).2 }) := by
    rw [startTiming, if_pos on]
    rfl
  have kept : (engine.startTiming.2.transact unit clock).2.monitor =
      (engine.monitor.start engine.clock.now).2 := by
    rw [monitor_transact, started]
  refine ⟨engine.clock.now, (engine.startTiming.2.transact unit clock).2.clock.now, ?_⟩
  rw [← kept, ← monitor_finishTiming, runUnit, started]

/-- A unit that runs while the monitor is off leaves it alone. -/
theorem monitor_runUnit_off (off : engine.isMonitoring = false) (unit : WorkUnit) (clock : Nat) :
    (engine.runUnit unit clock).2.monitor = engine.monitor := by
  have started : engine.startTiming = (none, engine) := by
    rw [startTiming, if_neg (by simp [off])]
  rw [runUnit, started]
  exact engine.monitor_transact unit clock

end Engine

namespace Machine

variable {machine after : Machine} {past : List Machine}

theorem monitor_runUnit (machine : Machine) {executor : Nat} {job : Job} {unit : WorkUnit}
    (prepared : machine.engine.unit? executor job = some unit) (clock ran : Nat) :
    (machine.runUnit executor job clock ran).engine.monitor =
      (machine.engine.runUnit unit clock).2.monitor := by
  cases outcome : (machine.engine.runUnit unit clock).1 with
  | ok answer =>
      rw [runUnit_of_ok machine prepared outcome]
      rfl
  | error failure =>
      rw [runUnit_of_error machine prepared outcome]
      rfl

section Steps

variable {ran : Nat} {rest : List Activity} (agenda : machine.agenda = .drain ran none :: rest)
include agenda

theorem restartsClock_of_drain : machine.restartsClock = false := by
  rw [restartsClock, agenda]

/-- A unit that is needed is timed while the monitor is on. -/
theorem times_runUnit {begun : Machine} {executor clock : Nat} {job : Job} {waiting : List Task}
    (queue : machine.engine.queue = .unit executor job clock :: waiting)
    (begins : begun.engine = { machine.engine with queue := waiting })
    (is : after = begun.runUnit executor job clock (ran + 1)) : machine.Times after := by
  have goesOn := restartsClock_of_drain agenda
  have next := unitRun?_of_queue agenda queue begins
  have monitor : begun.engine.monitor = machine.engine.monitor := by rw [begins]
  have isMonitoring : begun.engine.isMonitoring = machine.engine.isMonitoring := by rw [begins]
  cases prepared : begun.engine.unit? executor job with
  | none =>
      refine .nothing goesOn ?_ ?_
      · rw [timesUnit, next, prepared]
        exact Bool.and_false _
      · rw [is, runUnit_of_none begun prepared]
        exact monitor
  | some unit =>
      have times : machine.timesUnit = begun.engine.isMonitoring := by
        rw [timesUnit, next, prepared, isMonitoring]
        exact Bool.and_true _
      have worked := monitor_runUnit begun prepared clock (ran + 1)
      cases on : begun.engine.isMonitoring with
      | false =>
          refine .nothing goesOn (times.trans on) ?_
          rw [is, worked, Engine.monitor_runUnit_off on, monitor]
      | true =>
          rcases Engine.monitor_runUnit_on on unit clock with ⟨start, finish, timed⟩
          refine .unit goesOn (times.trans on) start finish ?_
          rw [is, worked, timed, monitor]

theorem times_drain (is : after = Machine.drain { machine with agenda := rest } ran none) :
    machine.Times after := by
  have goesOn := restartsClock_of_drain agenda
  cases queue : machine.engine.queue with
  | nil =>
      refine .nothing goesOn ?_ ?_
      · rw [timesUnit, unitRun?, agenda, queue]
        exact Bool.and_false _
      · simp only [is, drain, queue]
        rfl
  | cons task waiting =>
      cases task with
      | unit executor job clock =>
          let facing : Machine := { machine with agenda := rest }
          have waits : facing.engine.queue = .unit executor job clock :: waiting := queue
          exact times_runUnit agenda queue rfl (is.trans (drain_unit waits ran))
      | routine routine =>
          refine .nothing goesOn ?_ ?_
          · rw [timesUnit, unitRun?, agenda, queue]
            exact Bool.and_false _
          · simp only [is, drain, queue]
            exact Engine.monitor_of_foundation (foundation_runRoutine routine (ran + 1))

end Steps

/-- What a step does to the monitor. -/
theorem times_step (stepped : machine.step? = some after) : machine.Times after := by
  rcases of_step? stepped with ⟨activity, rest, agenda, rfl⟩
  cases reaches : activity.reachesMonitor with
  | false =>
      have same := @monitor_act { machine with agenda := rest } _ reaches
      refine .nothing ?_ (timesUnit_eq_false ?_) same
      · rw [restartsClock, agenda]
        split
        · next is =>
            rcases List.cons.inj is with ⟨rfl, rfl⟩
            contradiction
        · rfl
      · intro ran others is
        rw [agenda] at is
        rcases List.cons.inj is with ⟨rfl, rfl⟩
        contradiction
  | true =>
      cases activity with
      | perform command =>
          cases command with
          | clock command =>
              cases command with
              | start now =>
                  refine .restart ?_ machine.engine.config.recentWindow rfl
                  rw [restartsClock, agenda]
              | _ => contradiction
          | _ => contradiction
      | drain ran failure? =>
          cases failure? with
          | none => exact times_drain agenda rfl
          | some failure =>
              refine .nothing ?_ (timesUnit_eq_false ?_) rfl
              · rw [restartsClock, agenda]
              · simp [agenda]
      | _ => contradiction

/-! ## The monitor between steps -/

/-- How many units were timed since the clock was replaced; the latest machine comes first. -/
def unitsTimed (past : List Machine) : Nat :=
  (past.takeWhile fun machine => !machine.restartsClock).countP timesUnit

theorem unitsTimed_cons (machine : Machine) (past : List Machine) :
    unitsTimed (machine :: past) =
      if machine.restartsClock then 0
      else unitsTimed past + if machine.timesUnit then 1 else 0 := by
  rw [unitsTimed, List.takeWhile_cons]
  cases machine.restartsClock with
  | true => rfl
  | false => exact List.countP_cons

/-- The account of a monitor under which no transaction is under way, and all timed units are. -/
structure Timed (past : List Machine) (machine : Machine) (account : Monitor.Account) : Prop where
  monitor : account.monitor = machine.engine.monitor
  booked : ∃ window, Monitor.Booked window account
  idle : account.monitor.active = .empty
  units : account.ended.length = unitsTimed past

theorem timed_idle (name : String) (schema : StoreSchema) (config : Config) :
    Timed [] (Engine.create name schema config).idle (.opening config.recentWindow) :=
  ⟨rfl, ⟨_, Monitor.booked_opening _⟩, rfl, rfl⟩

theorem Timed.step {account : Monitor.Account} (timed : Timed past machine account)
    (times : machine.Times after) : ∃ account, Timed (machine :: past) after account := by
  cases times with
  | nothing goesOn times monitor =>
      refine ⟨account, timed.monitor.trans monitor.symm, timed.booked, timed.idle, ?_⟩
      rw [unitsTimed_cons, goesOn, times]
      exact timed.units
  | restart restarts window monitor =>
      refine ⟨.opening window, monitor.symm, ⟨window, Monitor.booked_opening window⟩, rfl, ?_⟩
      rw [unitsTimed_cons, restarts]
      rfl
  | unit goesOn times begun ended monitor =>
      rcases timed.booked with ⟨window, booked⟩
      rcases booked.transaction timed.idle begun ended with ⟨later, idle, noted⟩
      refine ⟨_, ?_, ⟨window, later⟩, idle, ?_⟩
      · rw [monitor, Monitor.serve_finish_monitor, ← timed.monitor]
        rfl
      · rw [unitsTimed_cons, goesOn, times, noted, List.length_append, timed.units]
        rfl

theorem Timed.goes {account : Monitor.Account} (timed : Timed past machine account)
    (goes : machine.Goes after) : ∃ account, Timed (machine :: past) after account := by
  cases goes with
  | step stepped => exact timed.step (times_step stepped)
  | call finished command =>
      refine timed.step (.nothing ?_ (timesUnit_eq_false ?_) rfl)
      · rw [restartsClock, finished]
      · simp [finished]

/-- On its way a machine always has such an account. -/
theorem timed_of_leads {first : Machine} {account : Monitor.Account} (timed : Timed [] first account)
    (leads : first.Leads machine past) : ∃ account, Timed past machine account := by
  induction leads with
  | refl => exact ⟨account, timed⟩
  | next _ goes ih =>
      rcases ih with ⟨_, timed⟩
      exact timed.goes goes

/--
The books of a monitor are balanced whatever it is asked, in whatever order.  Of an engine that
does whatever it is asked, and that may be given a new clock between any two steps, no transaction
is under way between two steps, and those that are fulfilled are as many as the units that it ran
with the monitor on since it was given the clock.
-/
theorem monitors_are_balanced :
    (∀ window calls, Monitor.Balanced window ((Monitor.Account.opening window).after calls)) ∧
    ∀ (name : String) (schema : StoreSchema) (config : Config) (machine : Machine)
      (past : List Machine), (Engine.create name schema config).idle.Leads machine past →
      machine.engine.monitor.active = .empty ∧
        machine.engine.monitor.fulfilled.size = unitsTimed past := by
  refine ⟨Monitor.balanced_after, fun name schema config machine past leads => ?_⟩
  rcases timed_of_leads (timed_idle name schema config) leads with ⟨account, timed⟩
  rcases timed.booked with ⟨window, booked⟩
  rw [← timed.monitor]
  refine ⟨timed.idle, ?_⟩
  rw [← timed.units, booked.balanced.ended.length_eq, OrderedMap.keys, List.length_map]
  rfl

/-- A unit that fails is timed; one that is skipped is not, nor one while the monitor is off. -/
theorem monitor_balanced_after_failure :
    let config : Config := { Config.standard with monitor := true }
    let first : Engine := .create "s" ⟨1, [⟨"t", "id", false, []⟩]⟩ config
    let run (steps : List OperationStep) : Command :=
      .executor (.run none "t" .readWrite steps false ⟨"r", [], 0⟩ true)
    let reached := course 60 first.idle
      [.clock (.start (.ofInt 5)), .binding (.create "b" "t" .all), .run, run [⟨.fail "no", false⟩],
        .binding (.refresh "b"), .binding (.close "b"), .run, .clock (.monitor false), run [], .run,
        .clock (.monitor true), run [], .run]
    reached.1.engine.monitor.active = .empty ∧ reached.1.engine.monitor.fulfilled.size = 3 := by
  intro config first run reached
  have leads : first.idle.Leads reached.1 reached.2 := leads_course 60 first.idle _
  have units : unitsTimed reached.2 = 3 := by
    subst reached run first config
    decide +kernel
  rcases monitors_are_balanced.2 _ _ _ _ _ leads with ⟨idle, counted⟩
  exact ⟨idle, counted.trans units⟩

end Machine

end LiveTable
