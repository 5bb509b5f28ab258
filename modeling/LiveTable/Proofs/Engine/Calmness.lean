import LiveTable.Proofs.Engine.Progress

/-!
# Calm machines stay calm

A step of a calm machine leads to a calm machine.  The requests that wait stay, but for
the oldest, which a drain may run.
-/

set_option autoImplicit false

namespace LiveTable

variable {closable : Bool} {limit : Nat}

/-! ## Engines -/

namespace Engine

variable {engine after : Engine} {added : List Task}

theorem asked?_of_isOfObject {task : Task} (object : task.isOfObject) : task.asked? = none := by
  cases task with
  | unit executor job clock => cases job <;> first | rfl | contradiction
  | routine routine => contradiction

theorem isCalm_of_isOfObject {task : Task} (object : task.isOfObject) : task.isCalm := by
  cases task with
  | unit executor job clock => cases job <;> first | rfl | contradiction
  | routine routine => contradiction

/-- No request comes and none goes where the frame is kept. -/
theorem waiting_of_frame (frame : Frame added engine after) : after.waiting = engine.waiting := by
  have none : added.filterMap Task.asked? = [] :=
    List.filterMap_eq_nil_iff.mpr fun task member =>
      asked?_of_isOfObject (frame.objects task member)
  rw [waiting, frame.queue, List.filterMap_append, none, List.append_nil, waiting]

/-- A name is given up. -/
theorem keeps_nameless (name : String) :
    Keeps closable [] engine
      (engine.rename name fun handles => { handles with request? := none }) := by
  apply keeps_rename
  intro handles id none
  contradiction

theorem Calm.keeps (calm : engine.Calm closable) (keeps : Keeps closable added engine after) :
    after.Calm closable := by
  rcases keeps calm.peaceful with ⟨peaceful, frame⟩
  constructor
  · exact peaceful
  · exact frame.store.sound calm.sound
  · exact frame.store.created calm.created
  · rw [frame.store.blocked?]
    exact calm.unblocked
  · intro task member
    rw [frame.queue] at member
    rcases List.mem_append.mp member with before | new
    · exact calm.tasks task before
    · exact isCalm_of_isOfObject (frame.objects task new)
  · intro name id stands
    exact Nat.lt_of_lt_of_le (calm.named (frame.names stands)) frame.nextId
  · intro name other id stands standsToo
    exact calm.owned (frame.names stands) (frame.names standsToo)

theorem Calm.dequeue (calm : engine.Calm closable) {task : Task} {rest : List Task}
    (queue : engine.queue = task :: rest) :
    ({ engine with queue := rest } : Engine).Calm closable := by
  refine { calm with peaceful := { calm.peaceful with }, tasks := ?_ }
  intro other member
  apply calm.tasks
  rw [queue]
  exact List.mem_cons_of_mem _ member

theorem Calm.withStore (calm : engine.Calm closable) {store : Store} (sound : store.Sound)
    (created : store.isOpen → store.isCreated) (blocked? : store.blocked? = engine.store.blocked?) :
    ({ engine with store := store } : Engine).Calm closable := by
  refine { calm with
    peaceful := { calm.peaceful with }, sound := sound, created := created, unblocked := ?_ }
  intro open?
  rw [← calm.unblocked open?, ← blocked?]

/-- A request that has run leaves a calm engine. -/
theorem Calm.asked (calm : engine.Calm closable) {id clock : Nat} {unit : WorkUnit}
    {rest : List Task} (queue : engine.queue = .unit id (.request unit) clock :: rest)
    (monitor : Monitor) (now : Clock) :
    ({ engine with
        queue := rest
        busy := engine.busy.filter (· != id)
        store := (engine.store.attempt unit).2
        monitor := monitor
        clock := now } : Engine).Calm closable := by
  have oneShot : unit.request.isOneShot := by
    apply calm.tasks (.unit id (.request unit) clock)
    rw [queue]
    exact List.mem_cons_self
  rcases engine.store.attempt_door unit with ⟨blocked?, created⟩
  have worked := (calm.dequeue queue).withStore (Store.sound_attempt calm.sound oneShot)
    (created calm.created) blocked?
  refine { worked with peaceful := { worked.peaceful with busy := ?_ } }
  exact fun other busy => calm.peaceful.busy other (List.mem_filter.mp busy).1

theorem Calm.withOutcomes (calm : engine.Calm closable)
    (outcomes : OrderedMap Nat (Except Error Outcome)) :
    ({ engine with outcomes := outcomes } : Engine).Calm closable :=
  { calm with peaceful := { calm.peaceful with } }

end Engine

/-! ## Machines -/

namespace Machine

variable {machine after : Machine} {activity : Activity}

/-- A calm machine whose next activity, quiet or not, has been taken off the agenda. -/
structure Ready (closable : Bool) (machine : Machine) (activity : Activity) : Prop where
  engine : machine.engine.Calm closable
  agenda : ∀ later ∈ machine.agenda, later.Quiet closable
  ordered : List.IsChain Activity.Before (activity :: machine.agenda)
  final : (∃ later ∈ activity :: machine.agenda, later.isFinal) → machine.engine.waiting = []
  concluded (reads : activity.reads) : machine.Concluded

/-- The requests that wait stay, but for one that has run. -/
theorem Progress.waiting (engine : machine.engine.Calm closable)
    (progress : Progress closable limit machine activity after) :
    after.engine.waiting = machine.engine.waiting ∨
      ∃ id unit, machine.engine.waiting = (id, unit) :: after.engine.waiting := by
  cases progress with
  | works free silent unsought works =>
      rcases works with ⟨keeps, _, _, _⟩
      exact Or.inl (Engine.waiting_of_frame (keeps engine.peaceful).2)
  | ran new failure? queue object keeps agenda fits =>
      left
      rw [Engine.waiting_of_frame (keeps (engine.dequeue queue).peaceful).2]
      simp only [Engine.waiting, queue, List.filterMap_cons, Engine.asked?_of_isOfObject object]
  | @asked ran id clock unit waiting monitor now queue =>
      right
      refine ⟨id, unit, ?_⟩
      rw [Engine.waiting, queue]
      rfl
  | delivered outbox =>
      left
      rw [deliver]
      simp only [outbox]
      rfl
  | _ => exact Or.inl rfl

/-- A machine is calm after a step that puts loose and quiet activities in front of the agenda. -/
theorem Calm.of_loose (engine : after.engine.Calm closable) (loose : Loose after.agenda)
    (agenda : ∀ later ∈ after.agenda, later.Quiet closable)
    (final : (∃ later ∈ after.agenda, later.isFinal) → after.engine.waiting = []) :
    after.Calm closable where
  engine := engine
  agenda := agenda
  ordered := (loose .flush).tail
  final := final
  concluded reads := by
    rw [loose.head_reads] at reads
    contradiction

/-- A machine is calm after a step that takes an activity off the agenda and replies. -/
theorem Calm.of_rest (ready : Ready closable machine activity)
    (engine : after.engine.Calm closable) (agenda : after.agenda = machine.agenda)
    (waiting : machine.engine.waiting = [] → after.engine.waiting = [])
    (concluded : machine.agenda.head?.any Activity.reads → after.Concluded) :
    after.Calm closable where
  engine := engine
  agenda := agenda ▸ ready.agenda
  ordered := agenda ▸ ready.ordered.tail
  final := by
    rw [agenda]
    rintro ⟨later, member, final⟩
    exact waiting (ready.final ⟨later, List.mem_cons_of_mem _ member, final⟩)
  concluded reads := concluded (agenda ▸ reads)

theorem final_append {new rest : List Activity} {empty : Prop}
    (notFinal : ∀ later ∈ new, later.isFinal = false)
    (final : (∃ later ∈ rest, later.isFinal) → empty) :
    (∃ later ∈ new ++ rest, later.isFinal) → empty := by
  rintro ⟨later, member, isFinal⟩
  rcases List.mem_append.mp member with early | late
  · rw [notFinal later early] at isFinal
    contradiction
  · exact final ⟨later, late, isFinal⟩

/-- What may follow a drain may follow any drain. -/
theorem ordered_drain {ran again : Nat} {failure? other? : Option Error} {rest : List Activity}
    (ordered : List.IsChain Activity.Before (.drain ran failure? :: rest)) :
    List.IsChain Activity.Before (.drain again other? :: rest) := by
  cases rest with
  | nil => exact .singleton _
  | cons later rest =>
      rw [List.isChain_cons_cons] at ordered ⊢
      refine ⟨?_, ordered.2⟩
      cases later with
      | afterDrain => exact ⟨again, other?, rfl⟩
      | recheck id =>
          rcases ordered.1 with same | final <;> contradiction
      | settle id outcome => exact ordered.1
      | _ => trivial

/-- What may follow the flush after a drain may follow the reply that it ended well. -/
theorem ordered_answer {ran : Nat} {rest : List Activity}
    (ordered : List.IsChain Activity.Before (.afterDrain :: rest)) :
    List.IsChain Activity.Before (.answer (.drained (.ok ran)) :: rest) := by
  cases rest with
  | nil => exact .singleton _
  | cons later rest =>
      rw [List.isChain_cons_cons] at ordered ⊢
      refine ⟨?_, ordered.2⟩
      cases later with
      | afterDrain =>
          rcases ordered.1 with ⟨_, _, same⟩
          contradiction
      | recheck id => exact Or.inr rfl
      | settle id outcome => exact ordered.1
      | _ => trivial

/-- A batch is passed to every listener, and the delivery goes on. -/
theorem deliver_of_batch {batch : List Change} {rest : List (List Change)}
    (outbox : machine.engine.store.outbox = batch :: rest) (count : Nat) :
    machine.deliver count =
      (machine.become
        { machine.engine with store := { machine.engine.store with outbox := rest } }).next
        (machine.engine.listeners.all.map (.tell · batch) ++ [.deliver (count + 1)]) := by
  simp only [deliver, outbox]

theorem fits_delivery (peaceful : machine.engine.Peaceful closable) (batch : List Change)
    (count : Nat) :
    ∀ later ∈ machine.engine.listeners.all.map (Activity.tell · batch) ++ [.deliver count],
      later.Fits closable batchLevel := by
  rw [List.forall_mem_append, List.forall_mem_singleton, List.forall_mem_map]
  refine ⟨fun listener among => ?_, ⟨trivial, (by decide : 1 < 14), rfl, rfl, rfl⟩⟩
  exact ⟨peaceful.listeners listener among, Nat.lt_succ_self 13, rfl, rfl, rfl⟩

theorem isFree_of_not_final {reply : Reply} (final : ¬ (Activity.answer reply).isFinal) :
    (Activity.answer reply).isFree := by
  cases reply with
  | drained outcome =>
      cases outcome with
      | error error => rfl
      | ok ran => exact absurd rfl final
  | _ => rfl

theorem isFree_of_wanted {id : Nat} (wanted : activity.wanted? machine.engine = some id) :
    activity.isFree := by
  cases activity with
  | drain ran failure? => contradiction
  | afterDrain => contradiction
  | answer reply => contradiction
  | _ => rfl

/-- Every step of a calm machine leads to a calm machine. -/
theorem Progress.calm (ready : Ready closable machine activity)
    (progress : Progress closable limit machine activity after) : after.Calm closable := by
  have engine := ready.engine
  have waits : machine.engine.waiting = [] → after.engine.waiting = [] := by
    intro none
    rcases progress.waiting engine with same | ⟨id, unit, one⟩
    · rw [same, none]
    · rw [none] at one
      contradiction
  have rest : (∃ later ∈ machine.agenda, later.isFinal) → after.engine.waiting = [] := by
    rintro ⟨later, member, final⟩
    exact waits (ready.final ⟨later, List.mem_cons_of_mem _ member, final⟩)
  cases progress with
  | works free silent unsought works =>
      rcases works with ⟨keeps, room, agenda, fine⟩
      apply Calm.of_loose (engine.keeps keeps)
      · rw [agenda]
        exact loose_append fine.loose (loose_of_isFree free ready.ordered)
      · rw [agenda]
        exact List.forall_mem_append.mpr ⟨fine.quiet, ready.agenda⟩
      · rw [agenda]
        exact final_append fine.notFinal rest
  | ended ran failure? idle =>
      refine .of_rest ready engine rfl id fun _ => ⟨_, rfl, ?_⟩
      rintro ⟨count, ended⟩
      cases failure? with
      | some failure => cases ended
      | none =>
          show machine.engine.waiting = []
          rw [Engine.waiting, idle rfl]
          rfl
  | @ran _ executor clock job waiting _ new failure? queue object keeps agenda fits =>
      have loose : Loose after.agenda := by
        rw [agenda]
        exact loose_append (fine_of_fits fits).loose (loose_cons rfl (ordered_drain ready.ordered))
      apply Calm.of_loose ((engine.dequeue queue).keeps keeps) loose
      · rw [agenda, List.forall_mem_append, List.forall_mem_cons]
        exact ⟨(fine_of_fits fits).quiet, trivial, ready.agenda⟩
      · rw [agenda]
        refine final_append (fine_of_fits fits).notFinal ?_
        rintro ⟨later, member, final⟩
        rcases List.mem_cons.mp member with rfl | later
        · contradiction
        · exact rest ⟨_, later, final⟩
  | @asked ran id clock unit waiting monitor now queue =>
      constructor
      · exact engine.asked queue monitor now
      · show ∀ later ∈ _ :: _ :: _ :: machine.agenda, later.Quiet closable
        simp only [List.forall_mem_cons]
        exact ⟨trivial, trivial, trivial, ready.agenda⟩
      · exact .cons_cons trivial (.cons_cons trivial (ordered_drain ready.ordered))
      · refine final_append ?_ rest
        simp [Activity.isFinal]
      · intro reads
        contradiction
  | @concluded ran reply =>
      have none : machine.engine.waiting = [] := by
        rcases ready.concluded rfl with ⟨outcome, replied, ended⟩
        rw [reply] at replied
        exact ended ⟨ran, (Reply.drained.inj replied).symm⟩
      refine .of_loose engine ?_ ?_ fun _ => none
      · exact loose_cons rfl (.cons_cons trivial (ordered_answer ready.ordered))
      · show ∀ later ∈ _ :: _ :: machine.agenda, later.Quiet closable
        simp only [List.forall_mem_cons]
        exact ⟨trivial, trivial, ready.agenda⟩
  | stopped reply => exact .of_rest ready engine rfl id fun _ => ready.concluded rfl
  | @answered reply =>
      refine .of_rest ready engine rfl waits fun reads => ?_
      have final : (Activity.answer reply).isFinal := by
        by_contra final
        have loose := loose_of_isFree (isFree_of_not_final final) ready.ordered
        rw [loose.head_reads] at reads
        contradiction
      cases reply with
      | drained outcome =>
          exact ⟨outcome, rfl, fun _ => ready.final ⟨_, List.mem_cons_self, final⟩⟩
      | _ => contradiction
  | @rerun _ id missing sought =>
      have free : activity.isFree := by
        rcases sought with rfl | ⟨rfl, _⟩ <;> rfl
      have loose := loose_of_isFree free ready.ordered
      refine .of_loose engine ?_ ?_ ?_
      · exact loose_cons rfl
          (.cons_cons ⟨0, none, rfl⟩ (.cons_cons (Or.inl rfl) (loose (.recheck id))))
      · show ∀ later ∈ _ :: _ :: _ :: machine.agenda, later.Quiet closable
        simp only [List.forall_mem_cons]
        exact ⟨trivial, trivial, trivial, ready.agenda⟩
      · refine final_append ?_ rest
        simp [running, Activity.isFinal]
  | lost missing reply =>
      exact .of_loose engine (loose_of_isFree rfl ready.ordered) ready.agenda rest
  | taken held wanted =>
      have loose := loose_of_isFree (isFree_of_wanted wanted) ready.ordered
      exact .of_loose (engine.withOutcomes _) loose ready.agenda rest
  | settled =>
      exact .of_loose (engine.withOutcomes _) (loose_of_isFree rfl ready.ordered) ready.agenda rest
  | @delivered count batch later outbox =>
      have fine := fine_of_fits (fits_delivery engine.peaceful batch (count + 1))
      rw [deliver_of_batch outbox] at rest ⊢
      refine .of_loose ?_ ?_ ?_ ?_
      · exact engine.withStore ⟨engine.sound.wellFormed, engine.sound.created⟩ engine.created rfl
      · exact loose_append fine.loose (loose_of_isFree rfl ready.ordered)
      · exact List.forall_mem_append.mpr ⟨fine.quiet, ready.agenda⟩
      · exact final_append fine.notFinal rest
  | @resolves name id stands =>
      have renamed : (machine.engine.rename name fun handles =>
          { handles with request? := none }).Calm closable :=
        engine.keeps (Engine.keeps_nameless name)
      refine .of_loose renamed ?_ ?_ ?_
      · exact loose_cons rfl (loose_of_isFree rfl ready.ordered _)
      · exact List.forall_mem_cons.mpr ⟨trivial, ready.agenda⟩
      · refine final_append ?_ rest
        simp [Activity.isFinal]

/-- What is new on the agenda waits for requests that were waited for, or that names stood for. -/
theorem Progress.agenda (engine : machine.engine.Calm closable)
    (progress : Progress closable limit machine activity after) :
    ∃ new, after.agenda = new ++ machine.agenda ∧
      ∀ later ∈ new, ∀ sought, later.sought? = some sought →
        activity.sought? = some sought ∨
          ∃ name, (machine.engine.handles name).request? = some sought := by
  have nothing {new : List Activity} (unsought : ∀ later ∈ new, later.sought? = none) :
      ∀ later ∈ new, ∀ sought, later.sought? = some sought →
        activity.sought? = some sought ∨
          ∃ name, (machine.engine.handles name).request? = some sought := by
    intro later member sought seeks
    rw [unsought later member] at seeks
    contradiction
  cases progress with
  | works free silent unsought works =>
      rcases works with @⟨added, new, keeps, room, agenda, fine⟩
      exact ⟨new, agenda, nothing fine.unsought⟩
  | @ran count executor clock job waiting _ new failure? queue object keeps agenda fits =>
      refine ⟨new ++ [.drain (count + 1) failure?], ?_, nothing ?_⟩
      · rw [agenda, List.append_assoc]
        rfl
      · rw [List.forall_mem_append, List.forall_mem_singleton]
        exact ⟨(fine_of_fits fits).unsought, rfl⟩
  | asked monitor now queue =>
      refine ⟨_, rfl, nothing ?_⟩
      simp [Activity.sought?]
  | concluded reply =>
      refine ⟨_, rfl, nothing ?_⟩
      simp [Activity.sought?]
  | @rerun _ id missing waits =>
      have seeks : activity.sought? = some id := by
        rcases waits with rfl | ⟨rfl, _⟩ <;> rfl
      refine ⟨running ++ [.recheck id], rfl, ?_⟩
      intro later member sought same
      rcases List.mem_append.mp member with running | again
      · have fine : Fine closable 4 Machine.running := fine_running (Nat.lt_succ_self 3)
        exact nothing fine.unsought later running sought same
      · rw [List.mem_singleton.mp again] at same
        rw [← same]
        exact Or.inl seeks
  | @delivered count batch rest outbox =>
      have fine := fine_of_fits (fits_delivery engine.peaceful batch (count + 1))
      refine ⟨_, ?_, nothing fine.unsought⟩
      rw [deliver_of_batch outbox]
      rfl
  | @resolves name id stands =>
      refine ⟨[.resolve id], rfl, ?_⟩
      intro later member sought same
      rw [List.mem_singleton.mp member] at same
      rw [← same]
      exact Or.inr ⟨name, stands⟩
  | _ => exact ⟨[], rfl, List.forall_mem_nil _⟩

/-- Names come to stand for requests in submissions only. -/
theorem Progress.names (engine : machine.engine.Calm closable)
    (progress : Progress closable limit machine activity after) {name : String} {id : Nat}
    (stands : (after.engine.handles name).request? = some id) :
    (machine.engine.handles name).request? = some id := by
  cases progress with
  | works free silent unsought works =>
      rcases works with ⟨keeps, _, _, _⟩
      exact (keeps engine.peaceful).2.names stands
  | ran new failure? queue object keeps agenda fits =>
      exact (keeps (engine.dequeue queue).peaceful).2.names stands
  | delivered outbox =>
      rw [deliver_of_batch outbox] at stands
      exact stands
  | @resolves renamed other held =>
      exact (Engine.keeps_nameless renamed engine.peaceful).2.names stands
  | _ => exact stands

theorem Calm.ready {rest : List Activity} (calm : machine.Calm closable)
    (agenda : machine.agenda = activity :: rest) :
    Ready closable { machine with agenda := rest } activity where
  engine := calm.engine
  agenda later member := calm.agenda later (agenda ▸ List.mem_cons_of_mem _ member)
  ordered := agenda ▸ calm.ordered
  final := agenda ▸ calm.final
  concluded reads := by
    apply calm.concluded
    rw [agenda]
    exact reads

/-- What a step of a calm machine does, and that the machine is calm after it. -/
theorem Calm.step (calm : machine.Calm closable) (stepped : machine.step? = some after) :
    ∃ activity rest, machine.agenda = activity :: rest ∧
      Ready closable { machine with agenda := rest } activity ∧
      Progress closable activity.level { machine with agenda := rest } activity after ∧
      after.Calm closable := by
  rcases of_step? stepped with ⟨activity, rest, agenda, rfl⟩
  have ready := calm.ready agenda
  have quiet : activity.Quiet closable := calm.agenda activity (agenda ▸ List.mem_cons_self)
  have progress := progress_act ready.engine quiet
  exact ⟨activity, rest, agenda, ready, progress, progress.calm ready⟩

theorem Calm.preserved (calm : machine.Calm closable) (stepped : machine.step? = some after) :
    after.Calm closable := by
  rcases calm.step stepped with ⟨_, _, _, _, _, calmAfter⟩
  exact calmAfter

end Machine

end LiveTable
