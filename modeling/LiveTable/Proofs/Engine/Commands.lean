import LiveTable.Engine.Run
import LiveTable.Proofs.Engine.Operations

/-!
# What live commands lead to

Carrying out a live command lets the engine proceed and puts further live activities
in front of the agenda; it takes nothing off.  The same holds of calling a live
callback, which is how commands lead to commands.
-/

set_option autoImplicit false

namespace LiveTable

/-- An activity in which nothing but live commands and callbacks occur. -/
def Activity.Live : Activity → Prop
  | .perform command => command.Live
  | .call callback _ => callback.Live
  | .tell listener _ => listener.Live
  | .alert watcher _ => watcher.Live
  | _ => True

/-- The activity that gives a binding the result of its execution. -/
def Activity.IsRefresh : Activity → Prop
  | .refresh _ _ => True
  | _ => False

/-- Activities that may be put in front of an agenda. -/
def Ordinary (activities : List Activity) : Prop :=
  ∀ activity ∈ activities, activity.Live ∧ ¬ activity.IsRefresh

theorem ordinary_nil : Ordinary [] :=
  fun _ member => nomatch member

theorem ordinary_cons
    {activity : Activity} {rest : List Activity}
    (live : activity.Live) (other : ¬ activity.IsRefresh) (ordinary : Ordinary rest) :
    Ordinary (activity :: rest) := by
  intro found member
  rcases List.mem_cons.mp member with rfl | later
  · exact ⟨live, other⟩
  · exact ordinary found later

theorem ordinary_singleton
    {activity : Activity} (live : activity.Live) (other : ¬ activity.IsRefresh) :
    Ordinary [activity] :=
  ordinary_cons live other ordinary_nil

theorem ordinary_append
    {first second : List Activity} (early : Ordinary first) (late : Ordinary second) :
    Ordinary (first ++ second) := by
  intro found member
  rcases List.mem_append.mp member with before | after
  · exact early found before
  · exact late found after

theorem ordinary_calls
    {callbacks : List Callback} (live : ∀ callback ∈ callbacks, callback.Live)
    (notice : Notice) :
    Ordinary (callbacks.map (.call · notice)) := by
  intro found member
  rcases List.mem_map.mp member with ⟨callback, among, rfl⟩
  exact ⟨live callback among, id⟩

theorem Reaction.Live.ordinary_script {reaction : Reaction Command} (live : reaction.Live) :
    Ordinary reaction.script := by
  intro found member
  rcases List.mem_flatMap.mp member with ⟨command, among, inner⟩
  simp only [List.mem_cons, List.not_mem_nil, or_false] at inner
  rcases inner with rfl | rfl
  · exact ⟨live command among, id⟩
  · exact ⟨trivial, id⟩

namespace Machine

/-- The engine proceeds, and ordinary activities come in front of the agenda. -/
def Continues (before after : Machine) : Prop :=
  before.engine.Proceeds after.engine ∧
    ∃ activities, after.agenda = activities ++ before.agenda ∧
      (before.engine.Regular → Ordinary activities)

variable {machine : Machine}

theorem continues_of_engine
    {before after : Machine} (proceeds : before.engine.Proceeds after.engine)
    (agenda : after.agenda = before.agenda) :
    before.Continues after :=
  ⟨proceeds, [], agenda, fun _ => ordinary_nil⟩

theorem continues_refl (machine : Machine) : machine.Continues machine :=
  continues_of_engine (Engine.proceeds_refl _) rfl

theorem continues_say (machine : Machine) (reply : Reply) : machine.Continues (machine.say reply) :=
  continues_of_engine (Engine.proceeds_refl _) rfl

theorem continues_note (machine : Machine) (event : Event) :
    machine.Continues (machine.note event) :=
  continues_of_engine (Engine.proceeds_refl _) rfl

theorem continues_conclude
    {outcome : Reply × Engine} (proceeds : machine.engine.Proceeds outcome.2) :
    machine.Continues (machine.conclude outcome) :=
  continues_of_engine proceeds rfl

theorem continues_next
    {activities : List Activity} (ordinary : machine.engine.Regular → Ordinary activities) :
    machine.Continues (machine.next activities) :=
  ⟨Engine.proceeds_refl _, activities, rfl, ordinary⟩

theorem continues_become_next
    {engine : Engine} (proceeds : machine.engine.Proceeds engine)
    {activities : List Activity} (ordinary : machine.engine.Regular → Ordinary activities) :
    machine.Continues ((machine.become engine).next activities) :=
  ⟨proceeds, activities, rfl, ordinary⟩

theorem continues_holding
    {engine : Engine} (proceeds : machine.engine.Proceeds engine) (held : Held)
    {activities : List Activity} (ordinary : machine.engine.Regular → Ordinary activities) :
    machine.Continues ((machine.become engine).holding held activities) := by
  refine ⟨proceeds.trans (Engine.proceeds_hold _ held), activities ++ [.letGo held], rfl, ?_⟩
  intro regular
  exact ordinary_append (ordinary regular) (ordinary_singleton trivial id)

/-! ## Calls -/

theorem continues_call {callback : Callback} (live : callback.Live) (notice : Notice) :
    machine.Continues (machine.call callback notice) := by
  rw [call]
  split
  · refine ⟨Engine.SameWork.proceeds (.of_essence rfl rfl), _, rfl, ?_⟩
    exact fun _ => Reaction.Live.ordinary_script live
  · exact continues_note machine _

/-! ## The store and the queue -/

theorem continues_ensureOpen (machine : Machine) :
    machine.Continues (machine.performStore .ensureOpen) := by
  rw [performStore]
  split
  · next store opened =>
      apply continues_conclude
      exact Engine.proceeds_store fun sound => Store.open?_keeps sound opened
  · exact continues_say machine _

theorem continues_close (machine : Machine) :
    machine.Continues (machine.performStore .close) := by
  apply continues_conclude
  apply Engine.proceeds_store
  intro sound
  exact ⟨⟨sound.wellFormed, sound.created⟩, .of_unchanged rfl rfl⟩

theorem continues_block (machine : Machine) (reason? : Option String) :
    machine.Continues (machine.performStore (.block reason?)) := by
  apply continues_conclude
  apply Engine.proceeds_store
  intro sound
  exact ⟨⟨sound.wellFormed, sound.created⟩, .of_unchanged rfl rfl⟩

theorem ordinary_running : Ordinary running :=
  ordinary_cons trivial id (ordinary_singleton trivial id)

/-! ## Requests -/

theorem proceeds_takeOutcome (engine : Engine) (id : Nat) :
    engine.Proceeds (engine.takeOutcome id).2 :=
  Engine.SameWork.proceeds (.of_essence rfl rfl)

theorem continues_performRequest {command : RequestCommand} (oneShot : command.isOneShot) :
    machine.Continues (machine.performRequest command) := by
  have resolves (id : Nat) : Ordinary [.resolve id] :=
    ordinary_singleton trivial (fun refresh => refresh)
  cases command with
  | submit name? table request =>
      have submitted := Engine.proceeds_submit machine.engine table oneShot
      cases name? with
      | none => exact continues_become_next submitted fun _ => resolves _
      | some name =>
          apply continues_conclude
          show machine.engine.Proceeds
            ((machine.engine.submit table request).2.rename name fun handles =>
              { handles with request? := some machine.engine.nextId })
          exact submitted.trans (Engine.proceeds_rename _ name _)
  | take name =>
      rw [performRequest]
      split
      · exact continues_say machine _
      · exact continues_conclude (proceeds_takeOutcome machine.engine _)
  | resolve name =>
      rw [performRequest]
      split
      · exact continues_say machine _
      · exact continues_become_next (Engine.proceeds_rename _ _ _) fun _ => resolves _

/-! ## Bindings -/

theorem continues_withBinding
    {name : String} {go : Nat → Binding → Machine}
    (goes : ∀ id binding, machine.engine.bindings.get? id = some binding →
      machine.Continues (go id binding)) :
    machine.Continues (machine.withBinding name go) := by
  rw [withBinding]
  split
  · next id binding found =>
      apply goes
      exact Engine.held_of_binding? found
  · exact continues_say machine _

theorem continues_performIssued
    {command : BindingCommand Command}
    (reacts : ∀ reaction, command.reaction? = some reaction → reaction.Live) :
    machine.Continues (machine.performIssued command) := by
  cases command with
  | create name table descriptor =>
      have created := Engine.proceeds_createBinding machine.engine table descriptor
      let renamed :=
        (machine.engine.createBinding table descriptor).2.rename name fun handles =>
          { handles with binding? := some machine.engine.nextId }
      have named : machine.engine.Proceeds renamed :=
        created.trans (Engine.proceeds_rename _ name _)
      apply continues_conclude
      show machine.engine.Proceeds
        ((machine.engine.handles name).binding?.elim renamed renamed.discard)
      cases (machine.engine.handles name).binding? with
      | none => exact named
      | some former => exact named.trans (Engine.proceeds_discard renamed former)
  | setDescriptor name descriptor =>
      apply continues_withBinding
      intro id binding held
      exact continues_conclude (Engine.proceeds_setDescriptor _ id binding descriptor)
  | setTable name table =>
      apply continues_withBinding
      intro id binding held
      exact continues_conclude (Engine.proceeds_setTable held table)
  | addClause name clause =>
      apply continues_withBinding
      intro id binding held
      exact continues_conclude (Engine.proceeds_setDescriptor _ id binding _)
  | refresh name =>
      apply continues_withBinding
      intro id binding held
      exact continues_conclude (Engine.proceeds_requestBinding _ id)
  | fetch name table? descriptor? reaction =>
      apply continues_withBinding
      intro id binding held
      have live : (machine.engine.register reaction).1.Live := reacts reaction rfl
      have heldStill :
          (machine.engine.register reaction).2.bindings.get? id = some binding := held
      have fetched :
          machine.engine.Proceeds
            ((machine.engine.register reaction).2.fetch id binding table? descriptor?
              (machine.engine.register reaction).1).2 :=
        (Engine.proceeds_register machine.engine reaction).trans
          (Engine.proceeds_fetch heldStill table? descriptor? live)
      apply continues_holding fetched
      intro _
      refine ordinary_append ?_ (ordinary_singleton trivial (fun refresh => refresh))
      intro activity member
      rcases List.mem_map.mp member with ⟨result, _, rfl⟩
      exact ⟨live, fun refresh => refresh⟩
  | subscribe name reaction =>
      apply continues_withBinding
      intro id binding held
      have live : (machine.engine.register reaction).1.Live := reacts reaction rfl
      apply continues_conclude
      refine (Engine.proceeds_register machine.engine reaction).trans ?_
      apply Engine.proceeds_modifyBinding id
      · intro regular other before
        refine ⟨?_, before.waiting⟩
        intro callback member
        rcases Subscribers.mem_all_add.mp member with former | rfl
        · exact (regular.orderly.bindings held).consumers callback former
        · exact live
      · exact fun _ => ⟨rfl, rfl, rfl, rfl⟩
  | unsubscribe name number =>
      apply continues_withBinding
      intro id binding held
      apply continues_conclude
      apply Engine.proceeds_modifyBinding id
      · intro regular other before
        refine ⟨?_, before.waiting⟩
        exact fun callback member => before.consumers callback (Subscribers.of_mem_all_remove member)
      · exact fun _ => ⟨rfl, rfl, rfl, rfl⟩
  | close name =>
      apply continues_withBinding
      intro id binding held
      exact continues_conclude (Engine.proceeds_closeBinding _ id)

theorem continues_performBinding
    {command : BindingCommand Command}
    (reacts : ∀ reaction, command.reaction? = some reaction → reaction.Live) :
    machine.Continues (machine.performBinding command) := by
  have sameReaction (occasion : Nat) : (command.issued occasion).reaction? = command.reaction? := by
    cases command <;> rfl
  let allocated := machine.become machine.engine.allocate.2
  have issued :
      allocated.Continues (allocated.performIssued (command.issued machine.engine.nextId)) := by
    apply continues_performIssued
    rw [sameReaction]
    exact reacts
  rcases issued with ⟨proceeds, activities, agenda, ordinary⟩
  refine ⟨(Engine.proceeds_allocate _).trans proceeds, activities, agenda, ?_⟩
  intro regular
  exact ordinary (Engine.proceeds_allocate _ regular).1

/-! ## Commands -/

/-- A live command lets the engine proceed and puts live activities in front of the agenda. -/
theorem continues_perform {command : Command} (live : command.Live) :
    machine.Continues (machine.perform command) := by
  cases live with
  | inquire inquiry => exact continues_say machine _
  | drain =>
      exact continues_next fun _ => ordinary_singleton trivial (fun refresh => refresh)
  | run => exact continues_next fun _ => ordinary_running
  | ensureOpen => exact continues_ensureOpen machine
  | close => exact continues_close machine
  | block reason? => exact continues_block machine reason?
  | request oneShot => exact continues_performRequest oneShot
  | binding reacts => exact continues_performBinding reacts

end Machine

end LiveTable
