import LiveTable.Proofs.Engine.Submission

/-!
# Requests run in sequence

The ledger of a calm machine is faithful: what was submitted is what has run and after it
what waits, and what has run came to what the units come to one after another on the
first store.  An outcome that was given and not taken is there, and no other is there for
the request.
-/

set_option autoImplicit false

namespace LiveTable

variable {closable : Bool} {limit : Nat}

namespace Machine

variable {machine before after : Machine} {activity : Activity} {first : Store}
  {ledger : Ledger}

/-- The outcome that a request is about to be given. -/
def settling (machine : Machine) : List (Nat × Except Error Outcome) :=
  match machine.agenda with
  | .settle id outcome :: _ => [(id, outcome)]
  | _ => []

/-- The ledger tells what happened, and what happened is what the units do in sequence. -/
structure Faithful (first : Store) (ledger : Ledger) (machine : Machine) : Prop where
  order : ledger.submitted = ledger.ran ++ machine.engine.waiting
  oneShot : ∀ asked ∈ ledger.submitted, asked.2.request.isOneShot
  distinct : (ledger.submitted.map Prod.fst).Nodup
  numbered : ∀ id ∈ ledger.submitted.map Prod.fst, id < machine.engine.nextId
  store : machine.engine.store.Agrees (first.sequence ledger.ran).2
  outcomes : ledger.settled ++ machine.settling = (first.sequence ledger.ran).1
  held {id : Nat} {outcome : Except Error Outcome} (settled : (id, outcome) ∈ ledger.settled)
    (untaken : id ∉ ledger.taken) : machine.engine.outcomes.get? id = some outcome
  known {id : Nat} {outcome : Except Error Outcome}
    (held : machine.engine.outcomes.get? id = some outcome) :
    id < machine.engine.nextId ∧
      (id ∈ ledger.submitted.map Prod.fst → (id, outcome) ∈ ledger.settled)
  spent : ∀ id ∈ ledger.taken, id < machine.engine.nextId

theorem settling_of_ordered {former : Activity}
    (ordered : List.IsChain Activity.Before (former :: machine.agenda)) :
    machine.settling = [] := by
  rw [settling]
  split
  · next agenda =>
      rw [agenda, List.isChain_cons_cons] at ordered
      exact ordered.1.elim
  · rfl

/-- A step that touches no request. -/
theorem Faithful.carry (faithful : Faithful first ledger before)
    (waiting : after.engine.waiting = before.engine.waiting)
    (store : after.engine.store.Agrees before.engine.store)
    (outcomes : ∀ id, after.engine.outcomes.get? id = before.engine.outcomes.get? id)
    (nextId : before.engine.nextId ≤ after.engine.nextId)
    (settling : after.settling = before.settling) : Faithful first ledger after where
  order := by rw [waiting, faithful.order]
  oneShot := faithful.oneShot
  distinct := faithful.distinct
  numbered id member := Nat.lt_of_lt_of_le (faithful.numbered id member) nextId
  store := store.trans faithful.store
  outcomes := by rw [settling, faithful.outcomes]
  held settled untaken := by rw [outcomes, faithful.held settled untaken]
  known held := by
    rw [outcomes] at held
    exact ⟨Nat.lt_of_lt_of_le (faithful.known held).1 nextId, (faithful.known held).2⟩
  spent id taken := Nat.lt_of_lt_of_le (faithful.spent id taken) nextId

/-- A step that keeps what is asked of an engine touches no request. -/
theorem Faithful.of_frame {added : List Task} (faithful : Faithful first ledger before)
    (frame : Engine.Frame added before.engine after.engine)
    (settling : after.settling = before.settling) : Faithful first ledger after :=
  faithful.carry (Engine.waiting_of_frame frame) frame.store.agrees frame.outcomes frame.nextId
    settling

/-- A request runs to the outcome that its unit has next in the sequence. -/
theorem Faithful.asked (faithful : Faithful first ledger before) {id : Nat} {unit : WorkUnit}
    (waiting : before.engine.waiting = (id, unit) :: after.engine.waiting)
    (unsettled : before.settling = [])
    (store : after.engine.store = (before.engine.store.attempt unit).2)
    (outcomes : after.engine.outcomes = before.engine.outcomes)
    (nextId : after.engine.nextId = before.engine.nextId)
    (settling : after.settling = [(id, (before.engine.store.attempt unit).1)]) :
    Faithful first (ledger.add (.ran id unit)) after := by
  have attempt := faithful.store.attempt unit
  have sequence : first.sequence (ledger.ran ++ [(id, unit)]) =
      ((first.sequence ledger.ran).1 ++ [(id, ((first.sequence ledger.ran).2.attempt unit).1)],
        ((first.sequence ledger.ran).2.attempt unit).2) := by
    rw [Store.sequence_append]
    rfl
  have settled : ledger.settled = (first.sequence ledger.ran).1 := by
    rw [← faithful.outcomes, unsettled, List.append_nil]
  constructor
  · show ledger.submitted = (ledger.ran ++ [(id, unit)]) ++ after.engine.waiting
    rw [faithful.order, waiting, List.append_assoc]
    rfl
  · exact faithful.oneShot
  · exact faithful.distinct
  · rw [nextId]
    exact faithful.numbered
  · show after.engine.store.Agrees (first.sequence (ledger.ran ++ [(id, unit)])).2
    rw [sequence, store]
    exact attempt.2
  · show ledger.settled ++ after.settling = (first.sequence (ledger.ran ++ [(id, unit)])).1
    rw [sequence, settling, settled, attempt.1]
  · rw [outcomes]
    exact faithful.held
  · rw [outcomes, nextId]
    exact faithful.known
  · rw [nextId]
    exact faithful.spent

/-- The outcomes given, and the one about to be given, are those of the requests that have run. -/
theorem Faithful.settled_ids (faithful : Faithful first ledger machine) :
    ledger.settled.map Prod.fst ++ machine.settling.map Prod.fst = ledger.ran.map Prod.fst := by
  rw [← List.map_append, faithful.outcomes, Store.sequence_ids]

/-- A request is given its outcome. -/
theorem Faithful.settled (faithful : Faithful first ledger before) {id : Nat}
    {outcome : Except Error Outcome} (settling : before.settling = [(id, outcome)])
    (engine : after.engine =
      { before.engine with outcomes := before.engine.outcomes.insert id outcome })
    (settled : after.settling = []) :
    Faithful first (ledger.add (.settled id outcome)) after := by
  have ids := faithful.settled_ids
  rw [settling] at ids
  have distinct := faithful.distinct
  rw [faithful.order, List.map_append, ← ids] at distinct
  have unsettled : id ∉ ledger.settled.map Prod.fst := by
    have ran := (List.nodup_append.mp distinct).1
    intro member
    exact (List.nodup_append.mp ran).2.2 id member id List.mem_cons_self rfl
  have submitted : id ∈ ledger.submitted.map Prod.fst := by
    rw [faithful.order, List.map_append, ← ids]
    exact List.mem_append_left _ (List.mem_append_right _ List.mem_cons_self)
  have inserted (sought : Nat) : after.engine.outcomes.get? sought =
      if sought = id then some outcome else before.engine.outcomes.get? sought := by
    rw [engine]
    dsimp only
    rw [OrderedMap.get?_insert]
    simp only [Std.compare_eq_iff_eq]
  constructor
  · show ledger.submitted = ledger.ran ++ after.engine.waiting
    rw [engine]
    exact faithful.order
  · exact faithful.oneShot
  · exact faithful.distinct
  · rw [engine]
    exact faithful.numbered
  · rw [engine]
    exact faithful.store
  · show (ledger.settled ++ [(id, outcome)]) ++ after.settling = (first.sequence ledger.ran).1
    rw [settled, List.append_nil, ← settling]
    exact faithful.outcomes
  · intro sought found given untaken
    rw [inserted]
    rcases List.mem_append.mp given with earlier | now
    · rw [if_neg, faithful.held earlier untaken]
      rintro rfl
      exact unsettled (List.mem_map_of_mem earlier)
    · rcases List.mem_singleton.mp now with ⟨rfl, rfl⟩
      rw [if_pos rfl]
  · intro sought found held
    rw [inserted] at held
    rw [engine]
    split at held
    · next same =>
        rcases Option.some.inj held with rfl
        rw [same]
        exact ⟨faithful.numbered id submitted,
          fun _ => List.mem_append_right _ List.mem_cons_self⟩
    · have known := faithful.known held
      exact ⟨known.1, fun asked => List.mem_append_left _ (known.2 asked)⟩
  · rw [engine]
    exact faithful.spent

/-- The outcome of a request is taken. -/
theorem Faithful.taken (faithful : Faithful first ledger before) {id : Nat}
    {outcome : Except Error Outcome} (held : before.engine.outcomes.get? id = some outcome)
    (engine : after.engine = (before.engine.takeOutcome id).2)
    (settling : after.settling = before.settling) :
    Faithful first (ledger.add (.taken id)) after := by
  have erased (sought : Nat) : after.engine.outcomes.get? sought =
      if sought = id then none else before.engine.outcomes.get? sought := by
    rw [engine, Engine.takeOutcome]
    dsimp only
    rw [OrderedMap.get?_erase]
    simp only [Std.compare_eq_iff_eq]
  constructor
  · show ledger.submitted = ledger.ran ++ after.engine.waiting
    rw [engine]
    exact faithful.order
  · exact faithful.oneShot
  · exact faithful.distinct
  · rw [engine]
    exact faithful.numbered
  · rw [engine]
    exact faithful.store
  · rw [settling]
    exact faithful.outcomes
  · intro sought outcome settled untaken
    have left : sought ∉ ledger.taken ∧ sought ≠ id := by
      constructor
      · exact fun earlier => untaken (List.mem_append_left _ earlier)
      · rintro rfl
        exact untaken (List.mem_append_right _ List.mem_cons_self)
    rw [erased, if_neg left.2, faithful.held settled left.1]
  · intro sought outcome held
    rw [erased] at held
    rw [engine]
    split at held
    · contradiction
    · exact faithful.known held
  · rw [engine]
    exact List.forall_mem_append.mpr
      ⟨faithful.spent, List.forall_mem_singleton.mpr (faithful.known held).1⟩

/-- A request is put at the end of the queue. -/
theorem Faithful.submitted (faithful : Faithful first ledger before) {unit : WorkUnit}
    (oneShot : unit.request.isOneShot)
    (waiting : after.engine.waiting = before.engine.waiting ++ [(before.engine.nextId, unit)])
    (store : after.engine.store = before.engine.store)
    (outcomes : after.engine.outcomes = before.engine.outcomes)
    (nextId : after.engine.nextId = before.engine.nextId + 1)
    (settling : after.settling = before.settling) :
    Faithful first (ledger.add (.submitted before.engine.nextId unit)) after := by
  have ids : (ledger.add (.submitted before.engine.nextId unit)).submitted.map Prod.fst =
      ledger.submitted.map Prod.fst ++ [before.engine.nextId] :=
    List.map_append
  constructor
  · show ledger.submitted ++ [(before.engine.nextId, unit)] = ledger.ran ++ after.engine.waiting
    rw [faithful.order, waiting, List.append_assoc]
  · exact List.forall_mem_append.mpr ⟨faithful.oneShot, List.forall_mem_singleton.mpr oneShot⟩
  · rw [ids, List.nodup_append]
    refine ⟨faithful.distinct, List.nodup_singleton _, ?_⟩
    intro id member other new same
    rw [List.mem_singleton.mp new] at same
    exact Nat.lt_irrefl _ (same ▸ faithful.numbered id member)
  · rw [ids, nextId]
    intro id member
    rcases List.mem_append.mp member with before | new
    · exact Nat.lt_succ_of_lt (faithful.numbered id before)
    · rw [List.mem_singleton.mp new]
      exact Nat.lt_succ_self _
  · rw [store]
    exact faithful.store
  · rw [settling]
    exact faithful.outcomes
  · rw [outcomes]
    exact faithful.held
  · intro id outcome held
    rw [outcomes] at held
    rw [ids, nextId]
    rcases faithful.known held with ⟨below, known⟩
    refine ⟨Nat.lt_succ_of_lt below, fun asked => ?_⟩
    rcases List.mem_append.mp asked with before | new
    · exact known before
    · rw [List.mem_singleton.mp new] at below
      exact absurd below (Nat.lt_irrefl _)
  · rw [nextId]
    exact fun id taken => Nat.lt_succ_of_lt (faithful.spent id taken)

/-! ## Entries -/

theorem noted?_of_wanted {id : Nat} (wanted : activity.wanted? machine.engine = some id) :
    (machine.facing activity).noted? =
      if machine.engine.outcomes.contains id then some (.taken id) else none := by
  have noted : (machine.facing activity).noted? =
      ((activity.wanted? machine.engine).filter machine.engine.outcomes.contains).map .taken := by
    cases activity with
    | perform command =>
        cases command with
        | request asked => cases asked <;> first | rfl | contradiction
        | _ => rfl
    | drain ran failure? => contradiction
    | settle id outcome => contradiction
    | _ => rfl
  rw [noted, wanted, Option.filter_some]
  split <;> rfl

theorem noted?_of_missing {id : Nat} (wanted : activity.wanted? machine.engine = some id)
    (missing : machine.engine.outcomes.get? id = none) :
    (machine.facing activity).noted? = none := by
  rw [noted?_of_wanted wanted, OrderedMap.contains_eq_isSome, missing]
  rfl

theorem enter_of_none (silent : machine.noted? = none) (ledger : Ledger) :
    machine.enter ledger = ledger := by
  rw [enter, silent]
  rfl

theorem enter_of_some {entry : Entry} (noted : machine.noted? = some entry) (ledger : Ledger) :
    machine.enter ledger = ledger.add entry := by
  rw [enter, noted]
  rfl

theorem settling_facing (other : ∀ id outcome, activity ≠ .settle id outcome) :
    (machine.facing activity).settling = [] := by
  rw [settling]
  split
  · next id outcome _ agenda =>
      rcases List.cons.inj agenda with ⟨rfl, _⟩
      exact absurd rfl (other id outcome)
  · rfl

/-- A step after which the engine is as it was. -/
theorem Faithful.still (faithful : Faithful first ledger (machine.facing activity))
    (silent : (machine.facing activity).noted? = none)
    (other : ∀ id outcome, activity ≠ .settle id outcome)
    (engine : after.engine = machine.engine) (settling : after.settling = []) :
    Faithful first ((machine.facing activity).enter ledger) after := by
  rw [enter_of_none silent]
  apply faithful.carry
  · rw [engine]
    rfl
  · rw [engine]
    exact .refl _
  · intro id
    rw [engine]
    rfl
  · rw [engine]
    exact Nat.le_refl _
  · rw [settling, settling_facing other]

/-- Every step of a calm machine keeps the ledger faithful. -/
theorem Progress.faithful (ready : Ready closable machine activity)
    (progress : Progress closable limit machine activity after)
    (faithful : Faithful first ledger (machine.facing activity)) :
    Faithful first ((machine.facing activity).enter ledger) after := by
  have engine := ready.engine
  have ordered := ready.ordered
  have rest : machine.settling = [] := settling_of_ordered ordered
  cases progress with
  | works free silent unsought works =>
      rcases works with @⟨added, new, keeps, room, agenda, fine⟩
      have loose : Loose after.agenda := by
        rw [agenda]
        exact loose_append fine.loose (loose_of_isFree free ordered)
      have settles : (machine.facing activity).settling = [] := by
        apply settling_facing
        rintro id outcome rfl
        contradiction
      rw [enter_of_none silent]
      apply faithful.of_frame (keeps engine.peaceful).2
      rw [settles, settling_of_ordered (loose .flush)]
  | ended ran failure? idle =>
      have silent : (machine.facing (.drain ran failure?)).noted? = none := by
        cases failure? with
        | some failure => rfl
        | none => simp [noted?, facing, idle rfl]
      exact faithful.still silent (by simp) rfl rest
  | @ran count executor clock job waiting _ new failure? queue object keeps agenda fits =>
      have silent : (machine.facing (.drain count none)).noted? = none := by
        simp [noted?, facing, queue, Engine.asked?_of_isOfObject object]
      have frame := (keeps (engine.dequeue queue).peaceful).2
      have loose : Loose after.agenda := by
        rw [agenda]
        exact loose_append (fine_of_fits fits).loose (loose_cons rfl (ordered_drain ordered))
      have dequeued : Engine.waiting { machine.engine with queue := waiting } =
          machine.engine.waiting := by
        simp only [Engine.waiting, queue, List.filterMap_cons, Engine.asked?_of_isOfObject object]
      rw [enter_of_none silent]
      apply faithful.carry
      · rw [Engine.waiting_of_frame frame, dequeued]
        rfl
      · exact frame.store.agrees
      · exact frame.outcomes
      · exact frame.nextId
      · exact settling_of_ordered (loose .flush)
  | @asked count id clock unit waiting monitor now queue =>
      have noted : (machine.facing (.drain count none)).noted? = some (.ran id unit) := by
        simp [noted?, facing, queue, Task.asked?]
      have asked : machine.engine.waiting = (id, unit) :: waiting.filterMap Task.asked? := by
        rw [Engine.waiting, queue]
        rfl
      rw [enter_of_some noted]
      exact faithful.asked asked rfl rfl rfl rfl rfl
  | concluded reply => exact faithful.still rfl (by simp) rfl rfl
  | stopped reply => exact faithful.still rfl (by simp) rfl rest
  | answered => exact faithful.still rfl (by simp) rfl rest
  | @rerun _ id missing sought =>
      have wanted : activity.wanted? machine.engine = some id := by
        rcases sought with rfl | ⟨rfl, _⟩ <;> rfl
      refine faithful.still (noted?_of_missing wanted missing) ?_ rfl rfl
      rintro other outcome rfl
      contradiction
  | @lost id missing reply =>
      have wanted : (Activity.recheck id).wanted? machine.engine = some id := rfl
      exact faithful.still (noted?_of_missing wanted missing) (by simp) rfl rest
  | @taken _ id outcome held wanted =>
      have noted : (machine.facing activity).noted? = some (.taken id) := by
        rw [noted?_of_wanted wanted, OrderedMap.contains_eq_isSome, held]
        rfl
      have settles : (machine.facing activity).settling = [] := by
        apply settling_facing
        rintro other outcome rfl
        contradiction
      rw [enter_of_some noted]
      apply faithful.taken held
      · rfl
      · rw [settles]
        exact rest
  | @settled id outcome =>
      have noted : (machine.facing (.settle id outcome)).noted? = some (.settled id outcome) := rfl
      rw [enter_of_some noted]
      exact faithful.settled rfl rfl rest
  | @delivered count batch later outbox =>
      have silent : (machine.facing (.deliver count)).noted? = none := rfl
      have fine := fine_of_fits (fits_delivery engine.peaceful batch (count + 1))
      have loose := loose_append fine.loose (loose_of_isFree rfl ordered)
      rw [enter_of_none silent, deliver_of_batch outbox]
      apply faithful.carry
      · rfl
      · exact .of_delivered rfl
      · exact fun _ => rfl
      · exact Nat.le_refl _
      · exact settling_of_ordered (loose .flush)
  | @resolves name id stands =>
      have silent : (machine.facing (.perform (.request (.resolve name)))).noted? = none := rfl
      rw [enter_of_none silent]
      exact faithful.carry rfl (.refl _) (fun _ => rfl) (Nat.le_refl _) rfl

end Machine

end LiveTable
