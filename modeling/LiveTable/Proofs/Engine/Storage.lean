import LiveTable.Proofs.Engine.Foundation
import LiveTable.Proofs.Store.Keyed

/-!
# What engines do to their store

No operation of an engine touches its store but those that open, close or block it, those
that fill or empty its outbox, and those that run a transaction.  So the tables of an
engine stay in order, and their rows under keys that agree with their records, whatever is
asked of it and whatever its callbacks ask in turn.
-/

set_option autoImplicit false

namespace LiveTable

/-! ## Operations leave the store alone -/

namespace Engine

variable (engine : Engine)

@[simp]
theorem store_release (executor : Nat) : (engine.release executor).store = engine.store :=
  rfl

@[simp]
theorem store_requestBinding (id : Nat) :
    (engine.requestBinding id).2.store = engine.store :=
  store_of_foundation (engine.foundation_requestBinding id)

@[simp]
theorem store_requestCache (id : Nat) : (engine.requestCache id).2.store = engine.store :=
  store_of_foundation (engine.foundation_requestCache id)

@[simp]
theorem store_letGo (held : Held) : (engine.letGo held).store = engine.store :=
  store_of_foundation (engine.foundation_letGo held)

@[simp]
theorem store_submit (table : String) (request : Request) :
    (engine.submit table request).2.store = engine.store :=
  store_of_foundation (engine.foundation_submit table request)

@[simp]
theorem store_elapse (clock : Nat) (answers : List Answer) :
    (engine.elapse clock answers).store = engine.store :=
  store_of_foundation (engine.foundation_elapse clock answers)

@[simp]
theorem store_startTiming : engine.startTiming.2.store = engine.store := by
  rcases engine.startTiming_eq with ⟨monitor, is⟩
  rw [is]

@[simp]
theorem store_finishTiming (timing? : Option Nat) :
    (engine.finishTiming timing?).store = engine.store := by
  rcases engine.finishTiming_eq timing? with ⟨monitor, is⟩
  rw [is]

@[simp]
theorem store_foldl_enqueue (routines : List Routine) :
    (routines.foldl (fun engine routine => engine.enqueue (.routine routine)) engine).store =
      engine.store :=
  store_of_foundation (engine.foundation_foldl_enqueue routines)

/-! ## Transactions -/

variable {engine}

theorem keyed_transact (keyed : engine.store.Keyed) (unit : WorkUnit) (clock : Nat) :
    (engine.transact unit clock).2.store.Keyed := by
  rw [transact]
  split
  · exact keyed
  · next store opened =>
      rw [store_elapse]
      exact (keyed.open? opened).run unit

theorem keyed_runUnit (keyed : engine.store.Keyed) (unit : WorkUnit) (clock : Nat) :
    (engine.runUnit unit clock).2.store.Keyed := by
  have timed : engine.startTiming.2.store.Keyed := by rwa [store_startTiming]
  have worked := keyed_transact timed unit clock
  rw [← store_finishTiming _ engine.startTiming.1] at worked
  exact worked

theorem keyed_transactDirectly
    (keyed : engine.store.Keyed) (mode : AccessMode) (table : String)
    (steps : List OperationStep) :
    (engine.transactDirectly mode table steps).2.store.Keyed := by
  simp only [transactDirectly, store_elapse]
  exact keyed.performAll mode table steps

end Engine

/-! ## Activities -/

/-- Whether a command acts on the store itself. -/
def Command.reachesStore : Command → Bool
  | .store _ | .feed (.publish _) => true
  | _ => false

/-- Whether an activity acts on the store itself: what a batch leaves, and what runs units. -/
def Activity.reachesStore : Activity → Bool
  | .perform command => command.reachesStore
  | .deliver _ | .drain _ _ => true
  | _ => false

namespace Machine

variable {machine after : Machine}

/-- A command that does not act on the store itself leaves it alone. -/
theorem store_perform {command : Command} (other : command.reachesStore = false) :
    (machine.perform command).engine.store = machine.engine.store := by
  cases founded : command.reachesFoundation with
  | false => exact Engine.store_of_foundation (foundation_perform founded)
  | true =>
      cases command with
      | clock command => cases command <;> rfl
      | feed command => cases command <;> contradiction
      | _ => contradiction

theorem store_runRoutine (routine : Routine) (ran : Nat) :
    (machine.runRoutine routine ran).engine.store = machine.engine.store :=
  Engine.store_of_foundation (foundation_runRoutine routine ran)

/-- An activity that does not act on the store itself leaves it alone. -/
theorem store_act {activity : Activity} (other : activity.reachesStore = false) :
    (machine.act activity).engine.store = machine.engine.store := by
  cases founded : activity.reachesFoundation with
  | false => exact Engine.store_of_foundation (foundation_act founded)
  | true =>
      cases activity with
      | perform command => exact store_perform other
      | flush =>
          simp only [act, flush]
          split <;> rfl
      | _ => contradiction

/-! ## Keys -/

theorem keyed_performStore (keyed : machine.engine.store.Keyed) (command : StoreCommand) :
    (machine.performStore command).engine.store.Keyed := by
  cases command with
  | ensureOpen =>
      rw [performStore]
      split
      · next store opened => exact keyed.open? opened
      · exact keyed
  | close => exact keyed.of_tables rfl rfl
  | block reason? => exact keyed.of_tables rfl rfl
  | transact mode table steps => exact Engine.keyed_transactDirectly keyed mode table steps

theorem keyed_perform
    (keyed : machine.engine.store.Keyed) {command : Command} (reaches : command.reachesStore) :
    (machine.perform command).engine.store.Keyed := by
  cases command with
  | store command => exact keyed_performStore keyed command
  | feed command =>
      cases command with
      | publish batch => exact keyed.of_tables rfl rfl
      | _ => contradiction
  | _ => contradiction

theorem keyed_drain
    (keyed : machine.engine.store.Keyed) (ran : Nat) (failure? : Option Error) :
    (machine.drain ran failure?).engine.store.Keyed := by
  cases failure? with
  | some failure => exact keyed
  | none =>
      simp only [drain]
      split
      · exact keyed
      · next task rest _ =>
          cases task with
          | unit executor job clock =>
              simp only [runUnit]
              split
              · exact keyed
              · next unit _ =>
                  let begun : Engine := { machine.engine with queue := rest }
                  have keyedBegun : begun.store.Keyed := keyed
                  have worked := Engine.keyed_runUnit keyedBegun unit clock
                  split <;> exact worked
          | routine routine =>
              dsimp only
              rwa [store_runRoutine]

/-- Whatever an activity does, the keys of the store stay in order. -/
theorem keyed_act (keyed : machine.engine.store.Keyed) (activity : Activity) :
    (machine.act activity).engine.store.Keyed := by
  cases reaches : activity.reachesStore with
  | false => rwa [store_act reaches]
  | true =>
      cases activity with
      | perform command => exact keyed_perform keyed reaches
      | deliver delivered =>
          simp only [act, deliver]
          split
          · exact keyed
          · exact keyed.of_tables rfl rfl
      | drain ran failure? => exact keyed_drain keyed ran failure?
      | _ => contradiction

/-- One step keeps the keys of the store in order. -/
theorem keyed_step (keyed : machine.engine.store.Keyed) (stepped : machine.step? = some after) :
    after.engine.store.Keyed := by
  rcases of_step? stepped with ⟨activity, rest, _, rfl⟩
  have keyedWorking : ({ machine with agenda := rest } : Machine).engine.store.Keyed := keyed
  exact keyed_act keyedWorking activity

end Machine

/-- Whatever is asked of a new engine, its rows stand under keys that agree with their records. -/
theorem Engine.Reachable.keyed
    {name : String} {schema : StoreSchema} {config : Config} {engine : Engine}
    (reachable : (create name schema config).Reachable engine) :
    engine.store.Keyed := by
  induction reachable with
  | start => exact Store.ofSchema_keyed name schema
  | call _ called ih =>
      rcases Engine.of_call? called with ⟨last, ran, _, _, rfl⟩
      exact Machine.run?_preserves (fun machine => machine.engine.store.Keyed)
        Machine.keyed_step ih ran

end LiveTable
