import LiveTable.Proofs.Engine.Runs
import LiveTable.Proofs.Engine.Steadiness

/-!
# Live queries converge

From an engine in which nothing has happened, live commands lead to engines in which
every open binding is attended to.  So once the queue and the outbox are empty there is
nothing left to attend to it but its own value: unless its last execution failed, it
holds what its query answers on the present contents of its table.
-/

set_option autoImplicit false

namespace LiveTable

namespace Machine

variable {machine last : Machine} {history : List Execution}

/-! ## Runs -/

/-- The history of executions after a run. -/
def historyAfter : Nat → Machine → List Execution → List Execution
  | 0, _, history => history
  | limit + 1, machine, history =>
    match machine.step? with
    | none => history
    | some next => historyAfter limit next (machine.extend history)

/-- A run of a steady machine leads to a steady machine. -/
theorem Steady.run
    {limit : Nat} (steady : machine.Steady history) (ran : run? limit machine = some last) :
    last.Steady (historyAfter limit machine history) := by
  induction limit generalizing machine history with
  | zero =>
      rw [run?] at ran
      split at ran
      · rcases Option.some.inj ran with rfl
        exact steady
      · contradiction
  | succ limit ih =>
      rw [run?] at ran
      rw [historyAfter]
      cases stepped : machine.step? with
      | none =>
          rw [stepped] at ran
          rcases Option.some.inj ran with rfl
          exact steady
      | some next =>
          rw [stepped] at ran
          exact ih (steady.step stepped) ran

end Machine

/-! ## Between calls -/

namespace Engine

/-- An engine that nothing is asked of. -/
def idle (engine : Engine) : Machine :=
  ⟨engine, [], .nothing, []⟩

end Engine

namespace Machine

variable {machine : Machine} {history : List Execution}

theorem Steady.idle (steady : machine.Steady history) (agenda : machine.agenda = []) :
    machine.engine.idle.Steady history := by
  rcases machine with ⟨engine, activities, reply, log⟩
  change activities = [] at agenda
  subst agenda
  constructor
  · exact steady.regular
  · exact fun _ member => nomatch member
  · exact fun _ member => nomatch member
  · intro id binding held isOpen
    cases steady.attended held isOpen with
    | awaited awaits => exact .awaited awaits
    | published waits touched => exact .published waits touched
    | alerted due alerts => contradiction
    | failed failed => exact .failed failed
    | answered holds answered same => exact .answered holds answered same

theorem Steady.start
    {engine : Engine} {command : Command} (steady : engine.idle.Steady history)
    (live : command.Live) :
    (start engine command).Steady history := by
  constructor
  · exact steady.regular
  · intro activity member
    rw [List.mem_singleton.mp member]
    exact live
  · exact fun _ member => nomatch member
  · intro id binding held isOpen
    cases steady.attended held isOpen with
    | awaited awaits => exact .awaited awaits
    | published waits touched => exact .published waits touched
    | alerted due alerts => contradiction
    | failed failed => exact .failed failed
    | answered holds answered same => exact .answered holds answered same

end Machine

namespace Engine

/-- The engines that live commands lead to, with the executions of bindings so far. -/
inductive Reached (first : Engine) : Engine → List Execution → Prop where
  | start : Reached first first []
  | call {engine after : Engine} {history : List Execution} {command : Command}
      {limit : Nat} {reply : Reply} {log : List Event}
      (reached : Reached first engine history) (live : command.Live)
      (called : engine.call? limit command = some (reply, log, after)) :
      Reached first after ((Machine.start engine command).historyAfter limit history)

theorem Reached.afterCall
    {first engine : Engine} {history : List Execution} {command : Command} {limit : Nat}
    (reached : Reached first engine history) (live : command.Live)
    (ends : (engine.call? limit command).isSome) :
    Reached first (engine.afterCall limit command)
      ((Machine.start engine command).historyAfter limit history) := by
  rcases Option.isSome_iff_exists.mp ends with ⟨⟨reply, log, after⟩, called⟩
  have same : engine.afterCall limit command = after := by
    rw [Engine.afterCall, called]
    rfl
  rw [same]
  exact reached.call live called

theorem create_steady (name : String) (schema : StoreSchema) (config : Config) :
    (create name schema config).idle.Steady [] where
  regular := create_regular name schema config
  live := fun _ member => nomatch member
  quiet := fun _ member => nomatch member
  attended := fun held => nomatch held

theorem Reached.steady
    {first engine : Engine} {history : List Execution}
    (steady : first.idle.Steady []) (reached : Reached first engine history) :
    engine.idle.Steady history := by
  induction reached with
  | start => exact steady
  | call _ live called ih =>
      rcases Option.map_eq_some_iff.mp called with ⟨last, ran, made⟩
      simp only [Prod.mk.injEq] at made
      rcases made with ⟨_, _, rfl⟩
      exact ((ih.start live).run ran).idle (Machine.run?_agenda ran)

/--
Live queries converge: when the queue and the outbox are empty, every open binding whose
last execution did not fail holds what its query answers on its table.
-/
theorem bindings_converge
    {name : String} {schema : StoreSchema} {config : Config}
    {engine : Engine} {history : List Execution}
    (reached : Reached (create name schema config) engine history)
    (queue : engine.queue = []) (outbox : engine.store.outbox = [])
    {id : Nat} {binding : Binding} (held : engine.bindings.get? id = some binding)
    (isOpen : binding.isClosed = false)
    (succeeded : Execution.lastFailed history id = false) :
    ∃ table value answer,
      engine.store.tables.get? binding.table = some table ∧
        binding.value? = some value ∧
        (Work.runOn binding.descriptor.run
          ⟨table, .begin binding.table binding.descriptor.mode⟩).1 = .ok answer ∧
        value.same answer := by
  have steady := reached.steady (create_steady name schema config)
  cases steady.attended held isOpen with
  | awaited awaits =>
      rcases awaits with ⟨clock, waits⟩
      change _ ∈ engine.queue at waits
      rw [queue] at waits
      contradiction
  | published waits touched =>
      change _ ∈ engine.store.outbox at waits
      rw [outbox] at waits
      contradiction
  | alerted due alerts => contradiction
  | failed failed =>
      rw [succeeded] at failed
      contradiction
  | @answered value answer holds answered same =>
      rcases Descriptor.of_compiled? answered with ⟨table, heldTable, compiled⟩
      exact ⟨table, value, answer, heldTable, holds, compiled, same⟩

/--
A binding that erases what it selects is asked to refresh while its first unit waits, which
is rejected; once the queue has run nothing is left that it selects, and it holds that.
-/
theorem erasing_binding_converges :
    let first := create "s" ⟨1, [⟨"t", "id", false, []⟩]⟩ .standard
    let put : Command := .request (.submit none "t" (.put (.ofList [("id", .integer 1)])))
    let bind : Command := .binding (.create "b" "t" (Descriptor.all.projecting .erase))
    let refresh : Command := .binding (.refresh "b")
    let filled := first.afterCall 30 put
    let bound := filled.afterCall 30 bind
    let asked := bound.afterCall 30 refresh
    let engine := asked.afterCall 30 .run
    ∃ binding table value answer,
      engine.bindings.get? 3 = some binding ∧ binding.isClosed = false ∧
        engine.store.tables.get? binding.table = some table ∧
        binding.value? = some value ∧
        (Work.runOn binding.descriptor.run
          ⟨table, .begin binding.table binding.descriptor.mode⟩).1 = .ok answer ∧
        value.same answer := by
  intro first put bind refresh filled bound asked engine
  have reached :
      Reached first engine
        ((Machine.start asked .run).historyAfter 30
          ((Machine.start bound refresh).historyAfter 30
            ((Machine.start filled bind).historyAfter 30
              ((Machine.start first put).historyAfter 30 [])))) := by
    apply Reached.afterCall
    · apply Reached.afterCall
      · apply Reached.afterCall
        · apply Reached.afterCall .start
          · exact .request rfl
          · subst first put
            decide +kernel
        · exact .binding nofun
        · subst filled bind first put
          decide +kernel
      · exact .binding nofun
      · subst bound refresh filled bind first put
        decide +kernel
    · exact .run
    · subst asked bound refresh filled bind first put
      decide +kernel
  have queue : engine.queue = [] := by
    apply List.isEmpty_iff.mp
    subst engine asked bound refresh filled bind first put
    decide +kernel
  have outbox : engine.store.outbox = [] := by
    apply List.isEmpty_iff.mp
    subst engine asked bound refresh filled bind first put
    decide +kernel
  have found : (engine.bindings.get? 3).any (!·.isClosed) := by
    subst engine asked bound refresh filled bind first put
    decide +kernel
  rcases (Option.any_eq_true _ _).mp found with ⟨binding, held, notClosed⟩
  have isOpen : binding.isClosed = false := by simpa using notClosed
  rcases bindings_converge reached queue outbox held isOpen (by
      subst engine asked bound refresh filled bind first put
      decide +kernel) with
    ⟨table, value, answer, rest⟩
  exact ⟨binding, table, value, answer, held, isOpen, rest⟩

end Engine

end LiveTable
