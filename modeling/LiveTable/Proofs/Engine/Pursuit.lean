import LiveTable.Engine.Run
import LiveTable.Proofs.Engine.Caching

/-!
# What activities lead to where caches are filled

Most activities only pursue what is asked: the engine upholds its order and its caches, and
further activities of the same kind come in front of the agenda.  The exceptions are the
delivery of a batch, which takes it out of the outbox, a unit, which leaves the queue, a
cache that is given the records of its fetch, and a command by which a cache tracks ids
without asking for a fetch.
-/

set_option autoImplicit false

namespace LiveTable

/-- An activity that leads to none but those considered, and that fills no cache. -/
def Activity.Usual : Activity → Prop
  | .perform command => command.Fetching
  | .call callback _ => callback.Fetching
  | .tell listener _ => listener.Fetching
  | .alert watcher _ => watcher.Fetching
  | .serveItem _ _ callback => callback.Fetching
  | .refill _ _ => False
  | _ => True

/-- Whether a command lets a cache track ids. -/
def Command.isTracking : Command → Bool
  | .cache (.track _ _) => true
  | _ => false

/-- Activities all of which are usual. -/
def Usual (activities : List Activity) : Prop :=
  ∀ activity ∈ activities, activity.Usual

theorem usual_nil : Usual [] :=
  fun _ member => nomatch member

theorem usual_cons
    {activity : Activity} {rest : List Activity} (usual : activity.Usual) (others : Usual rest) :
    Usual (activity :: rest) :=
  List.forall_mem_cons.mpr ⟨usual, others⟩

theorem usual_append
    {first second : List Activity} (early : Usual first) (late : Usual second) :
    Usual (first ++ second) :=
  List.forall_mem_append.mpr ⟨early, late⟩

theorem usual_map
    {α : Type} {items : List α} {activity : α → Activity}
    (usual : ∀ item ∈ items, (activity item).Usual) :
    Usual (items.map activity) :=
  List.forall_mem_map.mpr usual

theorem Callback.Fetching.usual_script {callback : Callback} (fetching : callback.Fetching) :
    Usual callback.reaction.script := by
  intro found member
  rcases List.mem_flatMap.mp member with ⟨command, among, inner⟩
  simp only [List.mem_cons, List.not_mem_nil, or_false] at inner
  rcases inner with rfl | rfl
  · exact fetching command among
  · trivial

namespace Machine

/-- The engine upholds its caches, and usual activities come in front of the agenda. -/
def Pursues (before after : Machine) : Prop :=
  before.engine.Upholds after.engine ∧
    ∃ new, after.agenda = new ++ before.agenda ∧ (before.engine.Arranged → Usual new)

variable {machine : Machine}

theorem pursues_of_engine
    {before after : Machine} (upholds : before.engine.Upholds after.engine)
    (agenda : after.agenda = before.agenda) :
    before.Pursues after :=
  ⟨upholds, [], agenda, fun _ => usual_nil⟩

theorem pursues_refl (machine : Machine) : machine.Pursues machine :=
  pursues_of_engine (Engine.upholds_refl _) rfl

theorem pursues_say (machine : Machine) (reply : Reply) : machine.Pursues (machine.say reply) :=
  pursues_of_engine (Engine.upholds_refl _) rfl

theorem pursues_note (machine : Machine) (event : Event) : machine.Pursues (machine.note event) :=
  pursues_of_engine (Engine.upholds_refl _) rfl

theorem pursues_conclude
    {outcome : Reply × Engine} (upholds : machine.engine.Upholds outcome.2) :
    machine.Pursues (machine.conclude outcome) :=
  pursues_of_engine upholds rfl

theorem pursues_next
    {new : List Activity} (usual : machine.engine.Arranged → Usual new) :
    machine.Pursues (machine.next new) :=
  ⟨Engine.upholds_refl _, new, rfl, usual⟩

theorem pursues_become_next
    {engine : Engine} (upholds : machine.engine.Upholds engine) {new : List Activity}
    (usual : machine.engine.Arranged → Usual new) :
    machine.Pursues ((machine.become engine).next new) :=
  ⟨upholds, new, rfl, usual⟩

theorem pursues_holding
    {engine : Engine} (upholds : machine.engine.Upholds engine) (held : Held)
    {new : List Activity} (usual : Usual new) :
    machine.Pursues ((machine.become engine).holding held new) :=
  have letsGo : Usual [.letGo held] := usual_cons trivial usual_nil
  ⟨upholds.trans (Engine.upholds_hold _ held), new ++ [.letGo held], rfl,
    fun _ => usual_append usual letsGo⟩

/-! ## Calls and deliveries -/

theorem pursues_call {callback : Callback} (fetching : callback.Fetching) (notice : Notice) :
    machine.Pursues (machine.call callback notice) := by
  rw [call]
  split
  · refine ⟨Engine.SameWork.upholds (.of_essence rfl rfl), _, rfl, ?_⟩
    exact fun _ => fetching.usual_script
  · exact pursues_note machine _

theorem pursues_flush (machine : Machine) : machine.Pursues machine.flush := by
  rw [flush]
  split
  · exact pursues_say machine _
  · apply pursues_become_next
    · exact Engine.SameWork.upholds (.of_essence rfl rfl)
    · exact fun _ => usual_cons trivial usual_nil

theorem pursues_deliver_nothing
    (machine : Machine) (outbox : machine.engine.store.outbox = []) (delivered : Nat) :
    machine.Pursues (machine.deliver delivered) := by
  rw [deliver]
  simp only [outbox]
  exact pursues_conclude (Engine.SameWork.upholds (.of_essence rfl rfl))

theorem pursues_tell {listener : Listener} (fetching : listener.Fetching) (batch : List Change) :
    machine.Pursues (machine.tell listener batch) := by
  cases listener with
  | registry generation =>
      rw [tell]
      split
      · exact pursues_holding (Engine.upholds_refl _) _ (usual_cons trivial usual_nil)
      · exact pursues_refl machine
  | callback target => exact pursues_next fun _ => usual_cons fetching usual_nil

theorem pursues_dispatch (machine : Machine) (generation : Nat) (batch : List Change) :
    machine.Pursues (machine.dispatch generation batch) :=
  pursues_next fun _ => usual_map fun _ _ => trivial

theorem pursues_visit (machine : Machine) (generation : Nat) (table : String) :
    machine.Pursues (machine.visit generation table) := by
  rw [visit]
  split
  · next registry found =>
      apply pursues_next
      intro arranged
      apply usual_map
      intro watcher watches
      rcases List.mem_map.mp watches with ⟨entry, listed, rfl⟩
      rw [Engine.registryOf?, arranged.former] at found
      split at found
      · rcases Option.some.inj found with rfl
        exact arranged.watchers listed
      · contradiction
  · exact pursues_refl machine

theorem pursues_alert {watcher : Watcher} (fetching : watcher.Fetching) (table : String) :
    machine.Pursues (machine.alert watcher table) := by
  cases watcher with
  | binding id => exact pursues_of_engine (Engine.upholds_requestBinding _ id) rfl
  | cache id => exact pursues_of_engine (Engine.upholds_requestCache _ id) rfl
  | callback target => exact pursues_next fun _ => usual_cons fetching usual_nil

/-! ## The store, the queue and requests -/

theorem pursues_performStore
    {command : StoreCommand} (door : (Command.store command).isFetching) :
    machine.Pursues (machine.performStore command) := by
  cases command with
  | ensureOpen =>
      rw [performStore]
      split
      · next store opened =>
          apply pursues_conclude
          exact Engine.upholds_store fun sound => Store.open?_keeps sound opened
      · exact pursues_say machine _
  | close =>
      apply pursues_conclude
      apply Engine.upholds_store
      exact fun sound => ⟨⟨sound.wellFormed, sound.created⟩, .of_unchanged rfl rfl⟩
  | block reason? =>
      apply pursues_conclude
      apply Engine.upholds_store
      exact fun sound => ⟨⟨sound.wellFormed, sound.created⟩, .of_unchanged rfl rfl⟩
  | transact mode table steps => contradiction

theorem usual_running : Usual running :=
  usual_cons trivial (usual_cons trivial usual_nil)

theorem pursues_afterDrain (machine : Machine) : machine.Pursues machine.afterDrain := by
  rw [afterDrain]
  split
  · exact pursues_next fun _ => usual_cons trivial (usual_cons trivial usual_nil)
  · exact pursues_refl machine

theorem upholds_takeOutcome (engine : Engine) (id : Nat) :
    engine.Upholds (engine.takeOutcome id).2 :=
  Engine.SameWork.upholds (.of_essence rfl rfl)

theorem pursues_performRequest {command : RequestCommand} (oneShot : command.isOneShot) :
    machine.Pursues (machine.performRequest command) := by
  cases command with
  | submit name? table request =>
      have submitted := Engine.upholds_submit machine.engine table oneShot
      cases name? with
      | none => exact pursues_become_next submitted fun _ => usual_cons trivial usual_nil
      | some name =>
          apply pursues_conclude
          show machine.engine.Upholds
            ((machine.engine.submit table request).2.rename name fun handles =>
              { handles with request? := some machine.engine.nextId })
          exact submitted.trans (Engine.upholds_rename _ name _)
  | take name =>
      rw [performRequest]
      split
      · exact pursues_say machine _
      · exact pursues_conclude (upholds_takeOutcome machine.engine _)
  | resolve name =>
      rw [performRequest]
      split
      · exact pursues_say machine _
      · exact pursues_become_next (Engine.upholds_rename _ _ _) fun _ =>
          usual_cons trivial usual_nil

theorem pursues_takeOr
    {id : Nat} {otherwise : Machine → Machine} (pursues : machine.Pursues (otherwise machine)) :
    machine.Pursues (machine.takeOr id otherwise) := by
  rw [takeOr]
  split
  · next outcome engine taken =>
      apply pursues_conclude
      rw [← congrArg Prod.snd taken]
      exact upholds_takeOutcome machine.engine id
  · exact pursues

theorem pursues_rerun (machine : Machine) (id : Nat) :
    machine.Pursues (machine.next (running ++ [.recheck id])) :=
  pursues_next fun _ => usual_append usual_running (usual_cons trivial usual_nil)

theorem pursues_resolve (machine : Machine) (id : Nat) : machine.Pursues (machine.resolve id) :=
  pursues_takeOr (pursues_rerun machine id)

theorem pursues_recheck (machine : Machine) (id : Nat) : machine.Pursues (machine.recheck id) := by
  apply pursues_takeOr
  split
  · exact pursues_rerun machine id
  · exact pursues_say machine _

/-! ## Caches -/

theorem pursues_withCache
    {name : String} {go : Nat → ItemCache → Machine}
    (goes : ∀ id cache, machine.engine.caches.get? id = some cache →
      machine.Pursues (go id cache)) :
    machine.Pursues (machine.withCache name go) := by
  rw [withCache]
  split
  · next id cache found =>
      apply goes
      exact Engine.held_of_cache? found
  · exact pursues_say machine _

theorem pursues_performCache
    {command : CacheCommand Command} (other : (Command.cache command).isTracking = false)
    (reacts : ∀ reaction, (Command.cache command).reaction? = some reaction →
      ∀ inner ∈ reaction.commands, inner.Fetching) :
    machine.Pursues (machine.performCache command) := by
  cases command with
  | create name table idField? =>
      let idField := idField?.getD machine.engine.config.idField
      let renamed :=
        (machine.engine.createCache table idField).2.rename name fun handles =>
          { handles with cache? := some machine.engine.nextId }
      have named : machine.engine.Upholds renamed :=
        (Engine.upholds_createCache machine.engine table idField).trans
          (Engine.upholds_rename _ name _)
      apply pursues_conclude
      show machine.engine.Upholds ((machine.engine.handles name).cache?.elim renamed renamed.discard)
      cases (machine.engine.handles name).cache? with
      | none => exact named
      | some former => exact named.trans (Engine.upholds_discard renamed former)
  | track name ids => contradiction
  | request name item reaction? =>
      apply pursues_withCache
      intro id cache held
      have registered := Engine.upholds_register? machine.engine reaction?
      have fetching (callback : Callback)
          (made : (machine.engine.register? reaction?).1 = some callback) : callback.Fetching := by
        cases reaction? with
        | none => contradiction
        | some reaction =>
            rcases Option.some.inj made with rfl
            exact reacts reaction rfl
      dsimp only
      split
      · apply pursues_holding registered
        apply usual_append
        · apply usual_map
          intro callback among
          exact fetching callback (Option.mem_toList.mp among)
        · exact usual_cons trivial usual_nil
      · apply pursues_conclude
        exact registered.trans (Engine.upholds_trackItem _ id item _ fetching)
  | fetch name =>
      apply pursues_withCache
      intro id cache held
      exact pursues_conclude (Engine.upholds_requestCache _ id)
  | subscribe name reaction =>
      apply pursues_withCache
      intro id cache held
      have fetching : (machine.engine.register reaction).1.Fetching := reacts reaction rfl
      apply pursues_conclude
      intro arranged
      refine ((Engine.upholds_register machine.engine reaction).trans ?_) arranged
      apply Engine.upholds_modifyCache id
      · intro _ current before
        refine ⟨?_, before.waiting⟩
        intro callback member
        rcases Subscribers.mem_all_add.mp member with former | rfl
        · exact (arranged.caches held).consumers callback former
        · exact fetching
      · exact fun _ => ⟨rfl, rfl, rfl, rfl, rfl⟩
  | unsubscribe name number =>
      apply pursues_withCache
      intro id cache held
      apply pursues_conclude
      apply Engine.upholds_modifyCache id
      · intro _ current before
        refine ⟨?_, before.waiting⟩
        exact fun callback member => before.consumers callback (Subscribers.of_mem_all_remove member)
      · exact fun _ => ⟨rfl, rfl, rfl, rfl, rfl⟩
  | close name =>
      apply pursues_withCache
      intro id cache held
      exact pursues_conclude (Engine.upholds_closeCache _ id)

theorem pursues_serveItem
    {callback : Callback} (fetching : callback.Fetching) (id : Nat) (item : Value) :
    machine.Pursues (machine.serveItem id item callback) := by
  rw [serveItem]
  split
  · exact pursues_refl machine
  · exact pursues_next fun _ => usual_cons fetching usual_nil

theorem pursues_spread (machine : Machine) (id : Nat) : machine.Pursues (machine.spread id) := by
  rw [spread]
  split
  · exact pursues_refl machine
  · next cache held =>
      apply pursues_next
      intro arranged
      exact usual_map (arranged.caches held).consumers

/-- Without bindings none is given a result. -/
theorem pursues_refresh (machine : Machine) (id : Nat) (result : QueryResult) :
    machine.Pursues (machine.refresh id result) := by
  rw [refresh]
  split
  · exact pursues_refl machine
  · next binding held =>
      have none (arranged : machine.engine.Arranged) : False := by
        rw [arranged.bindings] at held
        contradiction
      split
      · exact pursues_next fun arranged => (none arranged).elim
      · exact pursues_become_next (fun arranged => (none arranged).elim)
          fun arranged => (none arranged).elim

theorem pursues_serve (machine : Machine) (id : Nat) : machine.Pursues (machine.serve id) := by
  rw [serve]
  split
  · exact pursues_refl machine
  · next binding held =>
      have none (arranged : machine.engine.Arranged) : False := by
        rw [arranged.bindings] at held
        contradiction
      exact pursues_become_next (fun arranged => (none arranged).elim)
        fun arranged => (none arranged).elim

/-! ## Commands -/

/-- A command pursues what it asks, unless it lets a cache track ids and asks for no fetch. -/
theorem pursues_perform
    {command : Command} (fetching : command.Fetching) (other : command.isTracking = false) :
    machine.Pursues (machine.perform command) := by
  rcases fetching with ⟨kind, reacts⟩
  cases command with
  | inquire inquiry => exact pursues_say machine _
  | run => exact pursues_next fun _ => usual_running
  | queue command =>
      cases command with
      | push routine => contradiction
      | drain => exact pursues_next fun _ => usual_cons trivial usual_nil
  | store command => exact pursues_performStore kind
  | request command => exact pursues_performRequest kind
  | cache command => exact pursues_performCache other reacts
  | _ => contradiction

end Machine

/-- An activity that passes on no batch and no alert, runs no unit and changes no cache. -/
def Activity.IsQuiet : Activity → Prop
  | .deliver _ | .tell _ _ | .dispatch _ _ | .visit _ _ | .alert _ _ => False
  | .drain _ _ | .refill _ _ => False
  | .perform command => command.isTracking = false
  | _ => True

theorem Machine.pursues_act
    {machine : Machine} {activity : Activity} (quiet : activity.IsQuiet) (usual : activity.Usual) :
    machine.Pursues (machine.act activity) := by
  cases activity with
  | perform command => exact pursues_perform usual quiet
  | note label => exact pursues_note machine _
  | answer reply => exact pursues_say machine reply
  | call callback notice => exact pursues_call usual notice
  | flush => exact pursues_flush machine
  | letGo held => exact pursues_of_engine (Engine.upholds_letGo _ held) rfl
  | noteDrained => exact pursues_note machine _
  | afterDrain => exact pursues_afterDrain machine
  | resolve id => exact pursues_resolve machine id
  | recheck id => exact pursues_recheck machine id
  | settle id outcome =>
      exact pursues_of_engine (Engine.SameWork.upholds (.of_essence rfl rfl)) rfl
  | refresh id result => exact pursues_refresh machine id result
  | serve id => exact pursues_serve machine id
  | serveItem id item callback => exact pursues_serveItem usual id item
  | spread id => exact pursues_spread machine id
  | _ => exact quiet.elim

end LiveTable
