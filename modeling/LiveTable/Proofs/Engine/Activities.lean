import LiveTable.Proofs.Engine.Commands

/-!
# What activities lead to

Most activities continue in the sense of `Machine.Continues`: the engine proceeds and
activities come in front of the agenda.  The exceptions are the delivery of a batch,
which takes it out of the outbox, a unit, which leaves the queue, and a binding that
is given a result.
-/

set_option autoImplicit false

namespace LiveTable

namespace Machine

variable {machine : Machine}

/-! ## Deliveries -/

theorem continues_flush (machine : Machine) : machine.Continues machine.flush := by
  rw [flush]
  split
  · exact continues_say machine _
  · apply continues_become_next
    · exact Engine.SameWork.proceeds (.of_essence rfl rfl)
    · exact fun _ => ordinary_singleton trivial id

theorem continues_deliver_nothing
    (machine : Machine) (outbox : machine.engine.store.outbox = []) (delivered : Nat) :
    machine.Continues (machine.deliver delivered) := by
  rw [deliver]
  simp only [outbox]
  exact continues_conclude (Engine.SameWork.proceeds (.of_essence rfl rfl))

theorem continues_tell {listener : Listener} (live : listener.Live) (batch : List Change) :
    machine.Continues (machine.tell listener batch) := by
  cases listener with
  | registry generation =>
      rw [tell]
      split
      · apply continues_holding (Engine.proceeds_refl _)
        exact fun _ => ordinary_singleton trivial id
      · exact continues_refl machine
  | callback target =>
      apply continues_next
      exact fun _ => ordinary_singleton live id

theorem continues_dispatch (machine : Machine) (generation : Nat) (batch : List Change) :
    machine.Continues (machine.dispatch generation batch) := by
  apply continues_next
  intro _ activity member
  rcases List.mem_map.mp member with ⟨table, _, rfl⟩
  exact ⟨trivial, id⟩

/-- The registry of a generation is the present one where there is no former one. -/
theorem registryOf?_eq
    {engine : Engine} (orderly : engine.Orderly) {generation : Nat} {registry : Registry Watcher}
    (found : engine.registryOf? generation = some registry) :
    registry = engine.registry := by
  rw [Engine.registryOf?, orderly.former] at found
  split at found
  · exact (Option.some.inj found).symm
  · contradiction

theorem continues_visit (machine : Machine) (generation : Nat) (table : String) :
    machine.Continues (machine.visit generation table) := by
  rw [visit]
  split
  · next registry found =>
      apply continues_next
      intro regular activity member
      rcases List.mem_map.mp member with ⟨watcher, watches, rfl⟩
      rcases List.mem_map.mp watches with ⟨entry, listed, rfl⟩
      rw [registryOf?_eq regular.orderly found] at listed
      exact ⟨regular.orderly.watchers listed, id⟩
  · exact continues_refl machine

theorem proceeds_requestCache (engine : Engine) (id : Nat) :
    engine.Proceeds (engine.requestCache id).2 := by
  intro regular
  rw [Engine.requestCache_eq regular.orderly]
  exact Engine.proceeds_refl engine regular

theorem continues_alert {watcher : Watcher} (live : watcher.Live) (table : String) :
    machine.Continues (machine.alert watcher table) := by
  cases watcher with
  | binding id => exact continues_of_engine (Engine.proceeds_requestBinding _ id) rfl
  | cache id => exact continues_of_engine (proceeds_requestCache _ id) rfl
  | callback target =>
      apply continues_next
      exact fun _ => ordinary_singleton live id

theorem continues_letGo (machine : Machine) (held : Held) :
    machine.Continues (machine.become (machine.engine.letGo held)) :=
  continues_of_engine (Engine.proceeds_letGo _ held) rfl

/-! ## The queue -/

theorem continues_afterDrain (machine : Machine) : machine.Continues machine.afterDrain := by
  rw [afterDrain]
  split
  · apply continues_next
    exact fun _ => ordinary_cons trivial id (ordinary_singleton trivial id)
  · exact continues_refl machine

theorem continues_drain_failed (machine : Machine) (ran : Nat) (failure : Error) :
    machine.Continues (machine.drain ran (some failure)) :=
  continues_say machine _

theorem continues_drain_nothing
    (machine : Machine) (queue : machine.engine.queue = []) (ran : Nat) :
    machine.Continues (machine.drain ran none) := by
  simp only [drain, queue]
  exact continues_say machine _

/-! ## Requests -/

theorem continues_takeOr
    {id : Nat} {otherwise : Machine → Machine}
    (continues : machine.Continues (otherwise machine)) :
    machine.Continues (machine.takeOr id otherwise) := by
  rw [takeOr]
  split
  · next outcome engine taken =>
      apply continues_conclude
      rw [← congrArg Prod.snd taken]
      exact proceeds_takeOutcome machine.engine id
  · exact continues

theorem continues_rerun (machine : Machine) (id : Nat) :
    machine.Continues (machine.next (running ++ [.recheck id])) := by
  apply continues_next
  intro _
  exact ordinary_append ordinary_running (ordinary_singleton trivial (nomatch ·))

theorem continues_resolve (machine : Machine) (id : Nat) :
    machine.Continues (machine.resolve id) :=
  continues_takeOr (continues_rerun machine id)

theorem continues_recheck (machine : Machine) (id : Nat) :
    machine.Continues (machine.recheck id) := by
  apply continues_takeOr
  split
  · exact continues_rerun machine id
  · exact continues_say machine _

theorem continues_settle (machine : Machine) (id : Nat) (outcome : Except Error Outcome) :
    machine.Continues (machine.settle id outcome) :=
  continues_of_engine (Engine.SameWork.proceeds (.of_essence rfl rfl)) rfl

/-! ## Bindings and caches -/

theorem continues_serve (machine : Machine) (id : Nat) :
    machine.Continues (machine.serve id) := by
  rw [serve]
  split
  · exact continues_refl machine
  · next binding held =>
      apply continues_become_next
      · apply Engine.proceeds_modifyBinding
        · intro _ other live
          exact ⟨live.consumers, fun _ member => nomatch member⟩
        · exact fun _ => ⟨rfl, rfl, rfl, rfl⟩
      · intro regular
        exact ordinary_calls (regular.orderly.bindings held).waiting _

theorem no_cache
    {engine : Engine} {id : Nat} {cache : ItemCache} (held : engine.caches.get? id = some cache) :
    ¬ engine.Regular := by
  intro regular
  rw [regular.orderly.caches] at held
  contradiction

theorem continues_refill (machine : Machine) (id : Nat) (records : List Record) :
    machine.Continues (machine.refill id records) := by
  rw [refill]
  split
  · exact continues_refl machine
  · next cache held =>
      apply continues_become_next
      · exact fun regular => absurd regular (no_cache held)
      · exact fun regular => absurd regular (no_cache held)

theorem continues_serveItem (machine : Machine) (id : Nat) (item : Value) (callback : Callback) :
    machine.Continues (machine.serveItem id item callback) := by
  rw [serveItem]
  split
  · exact continues_refl machine
  · next cache held =>
      apply continues_next
      exact fun regular => absurd regular (no_cache held)

theorem continues_spread (machine : Machine) (id : Nat) :
    machine.Continues (machine.spread id) := by
  rw [spread]
  split
  · exact continues_refl machine
  · next cache held =>
      apply continues_next
      exact fun regular => absurd regular (no_cache held)

end Machine

/-! ## Plain activities -/

/-- An activity that passes on no batch and no alert, runs no unit and gives no result. -/
def Activity.IsPlain : Activity → Prop
  | .deliver _ | .tell _ _ | .dispatch _ _ | .visit _ _ | .alert _ _ => False
  | .drain _ _ | .refresh _ _ => False
  | _ => True

theorem Machine.continues_act
    {machine : Machine} {activity : Activity} (plain : activity.IsPlain) (live : activity.Live) :
    machine.Continues (machine.act activity) := by
  cases activity with
  | perform command => exact continues_perform live
  | note label => exact continues_note machine _
  | answer reply => exact continues_say machine reply
  | call callback notice => exact continues_call live notice
  | flush => exact continues_flush machine
  | letGo held => exact continues_letGo machine held
  | noteDrained => exact continues_note machine _
  | afterDrain => exact continues_afterDrain machine
  | resolve id => exact continues_resolve machine id
  | recheck id => exact continues_recheck machine id
  | settle id outcome => exact continues_settle machine id outcome
  | serve id => exact continues_serve machine id
  | refill cache records => exact continues_refill machine cache records
  | serveItem cache item callback => exact continues_serveItem machine cache item callback
  | spread cache => exact continues_spread machine cache
  | _ => exact plain.elim

end LiveTable
