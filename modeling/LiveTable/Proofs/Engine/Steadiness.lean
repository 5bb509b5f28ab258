import LiveTable.Engine.Run
import LiveTable.Proofs.Engine.Attention
import LiveTable.Proofs.Engine.Runs

/-!
# Steps keep a machine steady

A unit leaves the queue when it runs.  If it was the unit of an open binding then the
binding is about to be given the answer, or the query itself has changed contents and
a batch says so, or the execution has failed.  Every other binding waits as before.

With that every step is accounted for, and so is every run.
-/

set_option autoImplicit false

namespace LiveTable

/-- The unit that the job of a binding comes to is its query. -/
theorem Engine.of_unit?_binding
    {engine : Engine} {id : Nat} {unit : WorkUnit}
    (prepared : engine.unit? id .binding = some unit) :
    ∃ binding, engine.bindings.get? id = some binding ∧
      unit = ⟨binding.table, binding.descriptor.mode, .query binding.descriptor⟩ := by
  rw [Engine.unit?, Option.bind_eq_some_iff] at prepared
  rcases prepared with ⟨binding, held, made⟩
  rw [Binding.unit?] at made
  split at made
  · contradiction
  · exact ⟨binding, held, (Option.some.inj made).symm⟩

namespace Machine

variable {machine after : Machine} {history later : List Execution}

/-! ## Running a unit -/

/-- A binding that waits for another unit than the one that has run is attended to as before. -/
theorem attended_of_other_unit
    {ran executor clock id : Nat} {job : Job} {rest : List Activity} {waiting : List Task}
    {binding : Binding} (attended : machine.Attended history id binding)
    (other : job = .binding → id ≠ executor)
    (agenda : machine.agenda = .drain ran none :: rest)
    (queue : machine.engine.queue = .unit executor job clock :: waiting)
    (wellFormed : machine.engine.store.tables.WellFormed)
    (announces : machine.engine.store.Announces after.engine.store)
    (queueAfter : after.engine.queue = waiting)
    (generation : after.engine.generation = machine.engine.generation)
    (remaining : ∀ activity ∈ rest, activity ∈ after.agenda)
    (spared : ∀ result, .refresh id result ∉ after.agenda)
    (remembered : Execution.lastFailed later id = Execution.lastFailed history id) :
    after.Attended later id binding := by
  cases attended with
  | awaited awaits =>
      rcases awaits with ⟨number, waits⟩
      rw [queue] at waits
      rcases List.mem_cons.mp waits with head | waits
      · injection head with sameExecutor isBinding
        exact absurd sameExecutor (other isBinding.symm)
      · refine .awaited ⟨number, ?_⟩
        rwa [queueAfter]
  | published waits touched => exact .published (announces.outbox _ waits) touched
  | @alerted due member alerts =>
      rw [agenda] at member
      rcases List.mem_cons.mp member with rfl | remains
      · exact alerts.elim
      · refine .alerted (remaining due remains) ?_
        rwa [generation]
  | failed failed =>
      refine .failed ?_
      rwa [remembered]
  | answered holds answered same =>
      refine attended_of_told machine wellFormed announces rfl rfl ?_ answered same
      rw [upcoming?, agenda] at holds
      rw [upcoming?_of_not_mem spared]
      exact holds

/--
A unit that has run leaves its executor free, and the bindings of other executors
attended to as they were.
-/
theorem Steady.of_unit
    {ran executor clock : Nat} {job : Job} {rest : List Activity} {waiting : List Task}
    (steady : machine.Steady history) (agenda : machine.agenda = .drain ran none :: rest)
    (queue : machine.engine.queue = .unit executor job clock :: waiting)
    (worked : Engine)
    (same : Engine.SameWork { machine.engine with queue := waiting, store := worked.store } worked)
    (sound : worked.store.Sound) (announces : machine.engine.store.Announces worked.store)
    {first : Activity} {others : List Activity}
    (engineAfter : after.engine = worked.release executor)
    (agendaAfter : after.agenda = (first :: others) ++ rest)
    (live : first.Live) (ordinary : Ordinary others)
    (given : ∀ target result, first = .refresh target result → job = .binding ∧ target = executor)
    (remembered : ∀ id, (job = .binding → id ≠ executor) →
      Execution.lastFailed later id = Execution.lastFailed history id)
    (own : job = .binding → ∀ binding, machine.engine.bindings.get? executor = some binding →
      binding.isClosed = false → after.Attended later executor binding) :
    after.Steady later := by
  have bindings : after.engine.bindings = machine.engine.bindings := by
    rw [engineAfter]
    exact same.bindings
  have queueAfter : after.engine.queue = waiting := by
    rw [engineAfter]
    exact same.queue
  have announcesAfter : machine.engine.store.Announces after.engine.store := by
    rw [engineAfter]
    exact announces
  have generation : after.engine.generation = machine.engine.generation := by
    rw [engineAfter]
    exact same.generation
  have quietOthers : Quiet (others ++ rest) :=
    steady.quiet_append agenda fun activity member => (ordinary activity member).2
  constructor
  · rw [engineAfter]
    exact Engine.regular_afterUnit steady.regular queue same sound
  · rw [agendaAfter]
    apply steady.live_append agenda
    rintro activity (_ | ⟨_, member⟩)
    · exact live
    · exact (ordinary activity member).1
  · rw [agendaAfter]
    exact quietOthers
  · intro id binding held isOpen
    rw [bindings] at held
    by_cases ran : job = .binding ∧ id = executor
    · rcases ran with ⟨isBinding, rfl⟩
      exact own isBinding binding held isOpen
    · have other (isBinding : job = .binding) : id ≠ executor := fun same => ran ⟨isBinding, same⟩
      apply attended_of_other_unit (steady.attended held isOpen) other agenda queue
        steady.regular.orderly.store.wellFormed announcesAfter queueAfter generation
      · intro activity member
        rw [agendaAfter]
        exact List.mem_append_right _ member
      · intro result member
        rw [agendaAfter] at member
        rcases List.mem_cons.mp member with head | later
        · rcases given id result head.symm with ⟨isBinding, sameExecutor⟩
          exact other isBinding sameExecutor
        · exact quietOthers _ later trivial
      · exact remembered id other

theorem ordinary_afterUnit (ran : Nat) (failure? : Option Error) :
    Ordinary [.flush, .drain ran failure?] :=
  ordinary_cons trivial id (ordinary_singleton trivial id)

theorem Steady.drain_request
    {ran executor clock : Nat} {unit : WorkUnit} {rest : List Activity} {waiting : List Task}
    (steady : machine.Steady history) (agenda : machine.agenda = .drain ran none :: rest)
    (queue : machine.engine.queue = .unit executor (.request unit) clock :: waiting) :
    (Machine.drain { machine with agenda := rest } ran none).Steady history := by
  have oneShot : unit.request.isOneShot := by
    apply steady.regular.orderly.tasks (.unit executor (.request unit) clock)
    rw [queue]
    exact List.mem_cons_self
  let begun : Engine := { machine.engine with queue := waiting }
  let working : Machine := { machine with agenda := rest }
  have queueNow : working.engine.queue = _ := queue
  have prepared : begun.unit? executor (.request unit) = some unit := rfl
  have sound : begun.store.Sound := steady.regular.orderly.store
  have worked := Engine.ranUnit_runUnit sound oneShot clock
  have settles (outcome : Except Error Outcome) (target : Nat) (result : QueryResult)
      (given : Activity.settle executor outcome = .refresh target result) :
      Job.request unit = .binding ∧ target = executor := by
    contradiction
  have foreign : Job.request unit ≠ .binding := by
    intro same
    contradiction
  rw [drain_unit queueNow]
  cases outcome : (begun.runUnit unit clock).1 with
  | ok answer =>
      rw [runUnit_of_ok (working.become begun) prepared outcome]
      exact steady.of_unit agenda queue _ worked.same worked.sound worked.announces rfl rfl
        trivial (ordinary_afterUnit _ _) (settles _) (fun _ _ => rfl) (absurd · foreign)
  | error failure =>
      rw [runUnit_of_error (working.become begun) prepared outcome]
      exact steady.of_unit agenda queue _ worked.same worked.sound worked.announces rfl rfl
        trivial (ordinary_afterUnit _ _) (settles _) (fun _ _ => rfl) (absurd · foreign)

theorem extend_of_none
    {ran id clock : Nat} {rest : List Activity} {waiting : List Task}
    (agenda : machine.agenda = .drain ran none :: rest)
    (queue : machine.engine.queue = .unit id .binding clock :: waiting)
    (prepared : ({ machine.engine with queue := waiting } : Engine).unit? id .binding = none)
    (history : List Execution) :
    machine.extend history = history := by
  simp only [extend, execution?, agenda, queue, prepared]
  rfl

theorem extend_of_unit
    {ran id clock : Nat} {rest : List Activity} {waiting : List Task} {unit : WorkUnit}
    (agenda : machine.agenda = .drain ran none :: rest)
    (queue : machine.engine.queue = .unit id .binding clock :: waiting)
    (prepared : ({ machine.engine with queue := waiting } : Engine).unit? id .binding = some unit)
    (history : List Execution) :
    machine.extend history =
      ⟨id, (({ machine.engine with queue := waiting } : Engine).runUnit unit clock).1.isOk⟩ ::
        history := by
  simp only [extend, execution?, agenda, queue, prepared]
  rfl

theorem Steady.drain_binding
    {ran executor clock : Nat} {rest : List Activity} {waiting : List Task}
    (steady : machine.Steady history) (agenda : machine.agenda = .drain ran none :: rest)
    (queue : machine.engine.queue = .unit executor .binding clock :: waiting) :
    (Machine.drain { machine with agenda := rest } ran none).Steady (machine.extend history) := by
  let begun : Engine := { machine.engine with queue := waiting }
  let working : Machine := { machine with agenda := rest }
  have queueNow : working.engine.queue = _ := queue
  rw [drain_unit queueNow]
  cases prepared : begun.unit? executor .binding with
  | none =>
      rw [runUnit_of_none (working.become begun) prepared, extend_of_none agenda queue prepared]
      refine steady.of_unit agenda queue begun (.of_essence rfl rfl) steady.regular.orderly.store
        (.of_unchanged rfl rfl) rfl rfl trivial ordinary_nil ?_ (fun _ _ => rfl) ?_
      · intro target result given
        contradiction
      · -- An open binding has a unit.
        intro _ binding held isOpen
        have closed : binding.unit? = none := by
          have found : begun.bindings.get? executor = some binding := held
          rwa [Engine.unit?, found] at prepared
        rw [Binding.unit?, isOpen] at closed
        contradiction
  | some unit =>
      rcases Engine.of_unit?_binding prepared with ⟨binding, held, asked⟩
      have heldBefore : machine.engine.bindings.get? executor = some binding := held
      have oneShot : unit.request.isOneShot := by
        rw [asked]
        rfl
      have sound : begun.store.Sound := steady.regular.orderly.store
      have worked := Engine.ranUnit_runUnit sound oneShot clock
      have remembered
          (succeeded : Bool) (id : Nat) (other : Job.binding = .binding → id ≠ executor) :
          Execution.lastFailed (⟨executor, succeeded⟩ :: history) id =
            Execution.lastFailed history id :=
        Execution.lastFailed_cons_other (fun same => other rfl same.symm) history
      rw [extend_of_unit agenda queue prepared history]
      cases outcome : (begun.runUnit unit clock).1 with
      | error failure =>
          rw [runUnit_of_error (working.become begun) prepared outcome]
          refine steady.of_unit agenda queue _ worked.same worked.sound worked.announces rfl rfl
            trivial (ordinary_singleton trivial id) ?_ (remembered _) ?_
          · intro target result given
            contradiction
          · intro _ binding held isOpen
            exact .failed (Execution.lastFailed_cons_self history executor false)
      | ok answer =>
          rcases worked.answers asked outcome with ⟨result, rfl, informed⟩
          rw [runUnit_of_ok (working.become begun) prepared outcome]
          refine steady.of_unit agenda queue _ worked.same worked.sound worked.announces rfl rfl
            trivial (ordinary_afterUnit _ _) ?_ (remembered _) ?_
          · intro target found given
            injection given with sameTarget
            exact ⟨rfl, sameTarget.symm⟩
          · intro _ current heldCurrent isOpen
            rcases Option.some.inj (heldBefore.symm.trans heldCurrent) with rfl
            rcases informed with ⟨batch, waits, touched⟩ | answered
            · exact .published waits touched
            · exact attended_of_refresh rfl answered

theorem Steady.drain
    {ran : Nat} {failure? : Option Error} {rest : List Activity}
    (steady : machine.Steady history) (agenda : machine.agenda = .drain ran failure? :: rest) :
    (Machine.drain { machine with agenda := rest } ran failure?).Steady
      (machine.extend history) := by
  cases failure? with
  | some failure =>
      have nothing : machine.extend history = history := by
        simp only [extend, execution?, agenda]
        rfl
      rw [nothing]
      have continues := continues_drain_failed { machine with agenda := rest } ran failure
      exact steady.of_continues agenda id continues fun _ _ _ _ => False.elim
  | none =>
      cases queue : machine.engine.queue with
      | nil =>
          have nothing : machine.extend history = history := by
            simp only [extend, execution?, agenda, queue]
            rfl
          rw [nothing]
          have continues := continues_drain_nothing { machine with agenda := rest } queue ran
          exact steady.of_continues agenda id continues fun _ _ _ _ => False.elim
      | cons task waiting =>
          have live : task.Live := by
            apply steady.regular.orderly.tasks
            rw [queue]
            exact List.mem_cons_self
          cases task with
          | routine routine => exact live.elim
          | unit executor job clock =>
              cases job with
              | binding => exact steady.drain_binding agenda queue
              | request unit =>
                  have nothing : machine.extend history = history := by
                    simp only [extend, execution?, agenda, queue]
                    rfl
                  rw [nothing]
                  exact steady.drain_request agenda queue
              | cache => exact live.elim
              | callback unit? target reports => exact live.elim

/-! ## Passing an alert on -/

/-- The tables that are left are those that are touched and were not seen before. -/
theorem mem_touchedAfter_iff {seen : List String} {batch : List Change} {table : String} :
    table ∈ touchedAfter seen batch ↔ table ∈ batch.map Change.table ∧ table ∉ seen := by
  induction batch generalizing seen with
  | nil => simp [touchedAfter]
  | cons change rest ih =>
      rw [touchedAfter, List.map_cons, List.mem_cons]
      split
      · next before =>
          have before : change.table ∈ seen := List.contains_iff_mem.mp before
          rw [ih]
          constructor
          · exact fun later => ⟨.inr later.1, later.2⟩
          · rintro ⟨rfl | later, unseen⟩
            · exact absurd before unseen
            · exact ⟨later, unseen⟩
      · next first =>
          rw [List.mem_cons, ih, List.mem_cons]
          by_cases same : table = change.table
          · subst same
            simpa using first
          · simp [same]

theorem mem_touchedAfter
    {seen : List String} {batch : List Change} {table : String}
    (touched : Touches batch table) (unseen : table ∉ seen) :
    table ∈ touchedAfter seen batch :=
  mem_touchedAfter_iff.mpr ⟨List.mem_map.mpr touched, unseen⟩

theorem registryOf?_generation (engine : Engine) :
    engine.registryOf? engine.generation = some engine.registry :=
  if_pos rfl

theorem tell_passes
    {generation id : Nat} {table : String} {listener : Listener} {batch : List Change}
    (alerts : (Activity.tell listener batch).Alerts generation id table)
    (current : machine.engine.generation = generation) :
    ∃ due ∈ (machine.tell listener batch).agenda, due.Alerts generation id table := by
  subst current
  cases listener with
  | callback target => exact alerts.elim
  | registry told =>
      rcases alerts with ⟨rfl, touched⟩
      refine ⟨.dispatch machine.engine.generation batch, ?_, rfl, touched⟩
      rw [tell, registryOf?_generation]
      exact List.mem_cons_self

theorem dispatch_passes
    {generation told id : Nat} {table : String} {batch : List Change}
    (alerts : (Activity.dispatch told batch).Alerts generation id table) :
    ∃ due ∈ (machine.dispatch told batch).agenda, due.Alerts generation id table := by
  rcases alerts with ⟨rfl, touched⟩
  refine ⟨.visit told table, ?_, rfl, rfl⟩
  apply List.mem_append_left
  exact List.mem_map_of_mem (mem_touchedAfter touched List.not_mem_nil)

theorem visit_passes
    {generation told id : Nat} {table visited : String}
    (alerts : (Activity.visit told visited).Alerts generation id table)
    (current : machine.engine.generation = generation)
    (watches : machine.engine.Watches id table) :
    ∃ due ∈ (machine.visit told visited).agenda, due.Alerts generation id table := by
  subst current
  rcases alerts with ⟨rfl, rfl⟩
  refine ⟨.alert (.binding id) visited, ?_, rfl⟩
  rw [visit, registryOf?_generation]
  apply List.mem_append_left
  apply List.mem_map_of_mem
  exact List.mem_map_of_mem (f := Prod.snd) watches.listed

theorem alert_passes
    (orderly : machine.engine.Orderly) {generation id : Nat} {table visited : String}
    {watcher : Watcher} {binding : Binding}
    (alerts : (Activity.alert watcher visited).Alerts generation id table)
    (held : machine.engine.bindings.get? id = some binding) (isOpen : binding.isClosed = false) :
    (machine.alert watcher visited).engine.Awaits id := by
  cases watcher with
  | binding other =>
      rcases alerts with rfl
      exact Engine.awaits_requestBinding orderly held isOpen
  | cache other => exact alerts.elim
  | callback target => exact alerts.elim

/-! ## Every step -/

theorem extend_of_other
    {activity : Activity} {rest : List Activity} (agenda : machine.agenda = activity :: rest)
    (other : ∀ ran failure?, activity ≠ .drain ran failure?) (history : List Execution) :
    machine.extend history = history := by
  have nothing : machine.execution? = none := by
    rw [execution?, agenda]
    cases activity with
    | drain ran failure? => exact absurd rfl (other ran failure?)
    | _ => rfl
  rw [extend, nothing]
  rfl

theorem Steady.of_plain
    {activity : Activity} {rest : List Activity}
    (steady : machine.Steady history) (agenda : machine.agenda = activity :: rest)
    (live : activity.Live) (plain : activity.IsPlain) :
    (act { machine with agenda := rest } activity).Steady (machine.extend history) := by
  have notDrain (ran : Nat) (failure? : Option Error) : activity ≠ .drain ran failure? := by
    rintro rfl
    exact plain
  have notRefresh : ¬ activity.IsRefresh := by
    cases activity with
    | refresh target result => exact plain.elim
    | _ => exact id
  rw [extend_of_other agenda notDrain]
  apply steady.of_continues agenda notRefresh (continues_act plain live)
  intro id binding _ _ alerts
  cases activity with
  | tell | dispatch | visit | alert => exact plain.elim
  | _ => exact alerts.elim

/-- One step of a steady machine leads to a steady machine. -/
theorem Steady.step
    (steady : machine.Steady history) (stepped : machine.step? = some after) :
    after.Steady (machine.extend history) := by
  cases agenda : machine.agenda with
  | nil =>
      rw [step?, agenda] at stepped
      contradiction
  | cons activity rest =>
      rw [step?, agenda] at stepped
      rcases Option.some.inj stepped with rfl
      have live : activity.Live := by
        apply steady.live
        rw [agenda]
        exact List.mem_cons_self
      let working : Machine := { machine with agenda := rest }
      cases activity with
      | drain ran failure? => exact steady.drain agenda
      | refresh target result =>
          rw [extend_of_other agenda (by simp)]
          exact steady.refresh agenda
      | deliver delivered =>
          rw [extend_of_other agenda (by simp)]
          cases outbox : machine.engine.store.outbox with
          | nil =>
              have continues := continues_deliver_nothing working outbox delivered
              exact steady.of_continues agenda id continues fun _ _ _ _ => False.elim
          | cons batch waiting => exact steady.deliver agenda outbox
      | tell listener batch =>
          rw [extend_of_other agenda (by simp)]
          apply steady.of_continues agenda id (continues_tell live batch)
          intro id binding held isOpen alerts
          exact Or.inr (tell_passes alerts rfl)
      | dispatch generation batch =>
          rw [extend_of_other agenda (by simp)]
          apply steady.of_continues agenda id (continues_dispatch working generation batch)
          intro id binding held isOpen alerts
          exact Or.inr (dispatch_passes alerts)
      | visit generation table =>
          rw [extend_of_other agenda (by simp)]
          apply steady.of_continues agenda id (continues_visit working generation table)
          intro id binding held isOpen alerts
          exact Or.inr (visit_passes alerts rfl (steady.regular.watchful held isOpen))
      | alert watcher table =>
          rw [extend_of_other agenda (by simp)]
          apply steady.of_continues agenda id (continues_alert live table)
          intro id binding held isOpen alerts
          have orderly : working.engine.Orderly := steady.regular.orderly
          exact Or.inl (alert_passes orderly alerts held isOpen)
      | _ => exact steady.of_plain agenda live trivial

end Machine

end LiveTable
