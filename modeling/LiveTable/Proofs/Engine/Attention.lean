import LiveTable.Proofs.Engine.Activities
import LiveTable.Proofs.Engine.Execution
import LiveTable.Proofs.Value.Equality

/-!
# Nothing is lost

An open binding is attended to as long as its value may be out of date: a unit of it
waits, a batch that touches its table has not been delivered, an activity that will
alert it is on the agenda, or its last execution failed.  Otherwise it holds, or is
about to be given, what its query answers.

`Machine.Steady` says so of every open binding of a machine.  Each step of a machine
keeps it: most only continue, and the three that do not are taken one by one.
-/

set_option autoImplicit false

namespace LiveTable

/-! ## Executions -/

/-- An execution of the unit of a binding. -/
structure Execution where
  binding : Nat
  succeeded : Bool
deriving Repr, DecidableEq

/-- Whether the last execution of a binding failed; the latest comes first. -/
def Execution.lastFailed (history : List Execution) (id : Nat) : Bool :=
  (history.find? (·.binding == id)).any (!·.succeeded)

theorem Execution.lastFailed_cons_self (history : List Execution) (id : Nat) (succeeded : Bool) :
    lastFailed (⟨id, succeeded⟩ :: history) id = !succeeded := by
  simp [lastFailed]

theorem Execution.lastFailed_cons_other
    {latest : Execution} {id : Nat} (other : latest.binding ≠ id) (history : List Execution) :
    lastFailed (latest :: history) id = lastFailed history id := by
  simp [lastFailed, other]

/-- The execution that the next step is, if it runs the unit of a binding. -/
def Machine.execution? (machine : Machine) : Option Execution :=
  match machine.agenda, machine.engine.queue with
  | .drain _ none :: _, .unit id .binding clock :: rest =>
    let engine := { machine.engine with queue := rest }
    (engine.unit? id .binding).map fun unit => ⟨id, (engine.runUnit unit clock).1.isOk⟩
  | _, _ => none

/-- The history of executions after the next step. -/
def Machine.extend (machine : Machine) (history : List Execution) : List Execution :=
  machine.execution?.toList ++ history

/-! ## Attention -/

/-- An activity that comes to alert the binding of a number that watches a table. -/
def Activity.Alerts (generation id : Nat) (table : String) : Activity → Prop
  | .tell (.registry told) batch => told = generation ∧ Touches batch table
  | .dispatch told batch => told = generation ∧ Touches batch table
  | .visit told visited => told = generation ∧ visited = table
  | .alert (.binding other) _ => other = id
  | _ => False

namespace Machine

/-- The value that a binding holds, or is given by the next activity. -/
def upcoming? (machine : Machine) (id : Nat) (binding : Binding) : Option QueryResult :=
  match machine.agenda with
  | .refresh target result :: _ =>
    if target = id ∧ binding.holds result = false then some result else binding.value?
  | _ => binding.value?

/-- Nothing on an agenda gives a binding a result. -/
def Quiet (agenda : List Activity) : Prop :=
  ∀ activity ∈ agenda, ¬ activity.IsRefresh

/-- A binding that the agenda gives no result goes on holding what it holds. -/
theorem upcoming?_of_not_mem
    {machine : Machine} {id : Nat} (spared : ∀ result, .refresh id result ∉ machine.agenda)
    (binding : Binding) :
    machine.upcoming? id binding = binding.value? := by
  rw [upcoming?]
  split
  · next target result rest agenda =>
      apply if_neg
      rintro ⟨rfl, _⟩
      apply spared result
      rw [agenda]
      exact List.mem_cons_self
  · rfl

theorem upcoming?_of_quiet
    {machine : Machine} (quiet : Quiet machine.agenda) (id : Nat) (binding : Binding) :
    machine.upcoming? id binding = binding.value? :=
  upcoming?_of_not_mem (fun _ member => quiet _ member trivial) binding

/-- A binding that is given a result holds one that equals it from then on. -/
theorem upcoming?_of_refresh
    {machine : Machine} {id : Nat} {result : QueryResult} {rest : List Activity}
    (agenda : machine.agenda = .refresh id result :: rest) (binding : Binding) :
    ∃ value, machine.upcoming? id binding = some value ∧ value.same result := by
  simp only [upcoming?, agenda, true_and]
  cases holds : binding.holds result with
  | false => exact ⟨result, rfl, QueryResult.same_refl result⟩
  | true => simpa [Binding.holds, Option.any_eq_true] using holds

/-- Why the value of an open binding is, or comes to be, what its query answers. -/
inductive Attended (machine : Machine) (history : List Execution) (id : Nat) (binding : Binding) :
    Prop where
  | awaited (awaits : machine.engine.Awaits id)
  | published {batch : List Change} (waits : batch ∈ machine.engine.store.outbox)
      (touched : Touches batch binding.table)
  | alerted {activity : Activity} (due : activity ∈ machine.agenda)
      (alerts : activity.Alerts machine.engine.generation id binding.table)
  | failed (failed : Execution.lastFailed history id)
  | answered {value answer : QueryResult} (holds : machine.upcoming? id binding = some value)
      (answered :
        binding.descriptor.compiled? machine.engine.store.tables binding.table = some answer)
      (same : value.same answer)

/-- A machine between two steps in which every open binding is attended to. -/
structure Steady (machine : Machine) (history : List Execution) : Prop where
  regular : machine.engine.Regular
  live : ∀ activity ∈ machine.agenda, activity.Live
  quiet : Quiet machine.agenda.tail
  attended {id : Nat} {binding : Binding}
    (held : machine.engine.bindings.get? id = some binding) (isOpen : binding.isClosed = false) :
    machine.Attended history id binding

variable {machine after : Machine} {history later : List Execution}

/--
A binding that holds what its query answered is attended to when contents have changed
only where a batch says so.
-/
theorem attended_of_told
    (machine : Machine) {id : Nat} {former binding : Binding} {value answer : QueryResult}
    (wellFormed : machine.engine.store.tables.WellFormed)
    (announces : machine.engine.store.Announces after.engine.store)
    (table : former.table = binding.table) (descriptor : former.descriptor = binding.descriptor)
    (holds : after.upcoming? id binding = some value)
    (answered :
      former.descriptor.compiled? machine.engine.store.tables former.table = some answer)
    (same : value.same answer) :
    after.Attended later id binding := by
  rw [table, descriptor] at answered
  rcases announces.told binding.table with kept | ⟨batch, waits, touched⟩
  · exact .answered holds (Descriptor.compiled?_of_keepsAt kept wellFormed answered) same
  · exact .published waits touched

/-- A binding that is given what its query answers is attended to. -/
theorem attended_of_refresh
    {id : Nat} {binding : Binding} {answer : QueryResult} {rest : List Activity}
    (agenda : after.agenda = .refresh id answer :: rest)
    (answered :
      binding.descriptor.compiled? after.engine.store.tables binding.table = some answer) :
    after.Attended later id binding := by
  rcases upcoming?_of_refresh agenda binding with ⟨value, holds, same⟩
  exact .answered holds answered same

theorem Steady.live_append
    {activity : Activity} {new rest : List Activity}
    (steady : machine.Steady history) (agenda : machine.agenda = activity :: rest)
    (live : ∀ found ∈ new, found.Live) :
    ∀ found ∈ new ++ rest, found.Live := by
  intro found member
  rcases List.mem_append.mp member with among | later
  · exact live found among
  · apply steady.live found
    rw [agenda]
    exact List.mem_cons_of_mem _ later

theorem Steady.quiet_append
    {activity : Activity} {new rest : List Activity}
    (steady : machine.Steady history) (agenda : machine.agenda = activity :: rest)
    (quiet : Quiet new) :
    Quiet (new ++ rest) := by
  intro found member
  rcases List.mem_append.mp member with among | later
  · exact quiet found among
  · have quietRest := steady.quiet
    rw [agenda] at quietRest
    exact quietRest found later

/-! ## Steps that continue -/

/--
An activity that continues keeps a machine steady, as long as one that alerts a
binding passes that on.
-/
theorem Steady.of_continues
    {activity : Activity} {rest : List Activity}
    (steady : machine.Steady history) (agenda : machine.agenda = activity :: rest)
    (other : ¬ activity.IsRefresh)
    (continues : Continues { machine with agenda := rest } after)
    (passes : ∀ id binding, machine.engine.bindings.get? id = some binding →
      binding.isClosed = false →
      activity.Alerts machine.engine.generation id binding.table →
      after.engine.Awaits id ∨
        ∃ due ∈ after.agenda, due.Alerts machine.engine.generation id binding.table) :
    after.Steady history := by
  rcases continues with ⟨proceeds, new, agendaAfter, ordinary⟩
  rcases proceeds steady.regular with ⟨regularAfter, advances⟩
  have ordinaryNew := ordinary steady.regular
  have quietBefore : Quiet machine.agenda := by
    have quietRest := steady.quiet
    rw [agenda] at quietRest ⊢
    rintro found (_ | ⟨_, member⟩)
    · exact other
    · exact quietRest found member
  have quietAfter : Quiet after.agenda := by
    rw [agendaAfter]
    exact steady.quiet_append agenda fun found member => (ordinaryNew found member).2
  constructor
  · exact regularAfter
  · rw [agendaAfter]
    exact steady.live_append agenda fun found member => (ordinaryNew found member).1
  · exact fun found member => quietAfter found (List.mem_of_mem_tail member)
  · intro id binding held isOpen
    rcases advances.bindings held isOpen with awaits | ⟨former, heldFormer, openFormer, same⟩
    · exact .awaited awaits
    · have table := same.table
      cases steady.attended heldFormer openFormer with
      | awaited awaits => exact .awaited (awaits.mono advances.queue)
      | published waits touched =>
          exact .published (advances.store.outbox _ waits) (table ▸ touched)
      | @alerted due member alerts =>
          rw [agenda] at member
          rcases List.mem_cons.mp member with rfl | later
          · rcases passes id former heldFormer openFormer alerts with
              awaits | ⟨next, due, alertsNext⟩
            · exact .awaited awaits
            · refine .alerted due ?_
              rw [advances.generation, ← table]
              exact alertsNext
          · refine .alerted (?_ : due ∈ after.agenda) ?_
            · rw [agendaAfter]
              exact List.mem_append_right _ later
            · rw [advances.generation, ← table]
              exact alerts
      | failed failed => exact .failed failed
      | answered holds answered sameAnswer =>
          rw [upcoming?_of_quiet quietBefore] at holds
          refine attended_of_told machine steady.regular.orderly.store.wellFormed
            advances.store table same.descriptor ?_ answered sameAnswer
          rw [upcoming?_of_quiet quietAfter, ← same.value?]
          exact holds

/-! ## Delivering a batch -/

/-- A batch that leaves the outbox is passed to the registry, which every open binding watches. -/
theorem Steady.deliver
    {delivered : Nat} {rest : List Activity} {batch : List Change} {waiting : List (List Change)}
    (steady : machine.Steady history) (agenda : machine.agenda = .deliver delivered :: rest)
    (outbox : machine.engine.store.outbox = batch :: waiting) :
    (Machine.deliver { machine with agenda := rest } delivered).Steady history := by
  let engine : Engine :=
    { machine.engine with store := { machine.engine.store with outbox := waiting } }
  let new : List Activity :=
    machine.engine.listeners.all.map (.tell · batch) ++ [.deliver (delivered + 1)]
  have delivers :
      Machine.deliver { machine with agenda := rest } delivered =
        { machine with engine := engine, agenda := new ++ rest } := by
    simp only [Machine.deliver, outbox]
    rfl
  rw [delivers]
  have ordinary : Ordinary new := by
    apply ordinary_append
    · intro activity member
      rcases List.mem_map.mp member with ⟨listener, listens, rfl⟩
      exact ⟨steady.regular.orderly.listeners listener listens, id⟩
    · exact ordinary_singleton trivial id
  have quiet : Quiet (new ++ rest) :=
    steady.quiet_append agenda fun activity member => (ordinary activity member).2
  constructor
  · have sound := steady.regular.orderly.store
    exact steady.regular.withStore ⟨sound.wellFormed, sound.created⟩
  · exact steady.live_append agenda fun activity member => (ordinary activity member).1
  · exact fun activity member => quiet activity (List.mem_of_mem_tail member)
  · intro id binding held isOpen
    cases steady.attended held isOpen with
    | awaited awaits => exact .awaited awaits
    | published waits touched =>
        rw [outbox] at waits
        rcases List.mem_cons.mp waits with first | waits
        · rw [first] at touched
          have attached := (steady.regular.watchful held isOpen).attached
          have listens := steady.regular.orderly.attached attached
          have told : .tell (.registry machine.engine.generation) batch ∈ new ++ rest := by
            apply List.mem_append_left
            apply List.mem_append_left
            exact List.mem_map_of_mem listens
          exact .alerted told ⟨rfl, touched⟩
        · exact .published waits touched
    | alerted due alerts =>
        rw [agenda] at due
        rcases List.mem_cons.mp due with rfl | later
        · exact alerts.elim
        · exact .alerted (List.mem_append_right _ later) alerts
    | failed failed => exact .failed failed
    | answered holds answered same =>
        refine .answered ?_ answered same
        rw [upcoming?_of_quiet quiet]
        rw [upcoming?, agenda] at holds
        exact holds

/-! ## Giving a result -/

/-- A step that gives a binding the upcoming value and changes nothing else about it. -/
theorem Steady.of_given
    {target : Nat} {result : QueryResult} {rest : List Activity}
    (steady : machine.Steady history) (agenda : machine.agenda = .refresh target result :: rest)
    (new : List Activity) (regular : after.engine.Regular)
    (store : after.engine.store = machine.engine.store)
    (queue : after.engine.queue = machine.engine.queue)
    (generation : after.engine.generation = machine.engine.generation)
    (agendaAfter : after.agenda = new ++ rest) (ordinary : Ordinary new)
    (bindings : ∀ id binding, after.engine.bindings.get? id = some binding →
      ∃ former, machine.engine.bindings.get? id = some former ∧
        former.isClosed = binding.isClosed ∧ former.table = binding.table ∧
        former.descriptor = binding.descriptor ∧ machine.upcoming? id former = binding.value?) :
    after.Steady history := by
  have quiet : Quiet after.agenda := by
    rw [agendaAfter]
    exact steady.quiet_append agenda fun activity member => (ordinary activity member).2
  constructor
  · exact regular
  · rw [agendaAfter]
    exact steady.live_append agenda fun activity member => (ordinary activity member).1
  · exact fun activity member => quiet activity (List.mem_of_mem_tail member)
  · intro id binding held isOpen
    rcases bindings id binding held with ⟨former, heldFormer, closed, table, descriptor, value⟩
    rw [← closed] at isOpen
    cases steady.attended heldFormer isOpen with
    | awaited awaits =>
        apply Attended.awaited
        rw [Engine.Awaits, queue]
        exact awaits
    | published waits touched =>
        refine .published ?_ (table ▸ touched)
        rw [store]
        exact waits
    | @alerted due member alerts =>
        rw [agenda] at member
        rcases List.mem_cons.mp member with rfl | later
        · exact alerts.elim
        · refine .alerted (?_ : due ∈ after.agenda) ?_
          · rw [agendaAfter]
            exact List.mem_append_right _ later
          · rw [generation, ← table]
            exact alerts
    | failed failed => exact .failed failed
    | answered holds answered same =>
        refine .answered ?_ ?_ same
        · rw [upcoming?_of_quiet quiet, ← value]
          exact holds
        · rw [store, ← table, ← descriptor]
          exact answered

theorem Steady.refresh
    {target : Nat} {result : QueryResult} {rest : List Activity}
    (steady : machine.Steady history) (agenda : machine.agenda = .refresh target result :: rest) :
    (Machine.refresh { machine with agenda := rest } target result).Steady history := by
  have upcoming (id : Nat) (former : Binding) :
      machine.upcoming? id former =
        if target = id ∧ former.holds result = false then some result else former.value? := by
    rw [upcoming?, agenda]
  have serves : Ordinary [.serve target] := ordinary_singleton trivial id
  rw [Machine.refresh]
  split
  · next missing =>
      refine steady.of_given agenda [] steady.regular rfl rfl rfl rfl ordinary_nil ?_
      intro id binding held
      refine ⟨binding, held, rfl, rfl, rfl, ?_⟩
      rw [upcoming]
      apply if_neg
      rintro ⟨rfl, _⟩
      have absent : machine.engine.bindings.get? target = none := missing
      rw [absent] at held
      contradiction
  · next current found =>
      have heldCurrent : machine.engine.bindings.get? target = some current := found
      split
      · next holds =>
          refine steady.of_given agenda [.serve target] steady.regular rfl rfl rfl rfl serves ?_
          intro id binding held
          refine ⟨binding, held, rfl, rfl, rfl, ?_⟩
          rw [upcoming]
          apply if_neg
          rintro ⟨rfl, differs⟩
          rcases Option.some.inj (heldCurrent.symm.trans held) with rfl
          rw [holds] at differs
          contradiction
      · next differs =>
          let change : Binding → Binding := fun binding =>
            { binding with value? := some result, version := binding.version + 1 }
          refine steady.of_given agenda
            (current.consumers.all.map (.call · (.result (some result))) ++ [.serve target])
            ?_ rfl rfl rfl rfl (ordinary_append ?_ serves) ?_
          · show (machine.engine.modifyBinding target change).Regular
            apply steady.regular.modifyBinding target
            · exact fun _ live => ⟨live.consumers, live.waiting⟩
            · exact fun _ => ⟨rfl, rfl⟩
          · exact ordinary_calls (steady.regular.orderly.bindings heldCurrent).consumers _
          · intro id binding held
            rcases Engine.of_get?_modifyBinding held with
              ⟨former, heldFormer, ⟨rfl, different⟩ | ⟨rfl, rfl⟩⟩
            · refine ⟨binding, heldFormer, rfl, rfl, rfl, ?_⟩
              rw [upcoming]
              exact if_neg fun same => different same.1.symm
            · refine ⟨former, heldFormer, rfl, rfl, rfl, ?_⟩
              rcases Option.some.inj (heldCurrent.symm.trans heldFormer) with rfl
              rw [upcoming]
              exact if_pos ⟨rfl, by simpa using differs⟩

end Machine

end LiveTable
