import LiveTable.Proofs.Engine.Sequential

/-!
# Resolving requests

A machine that waits for the outcome of a request takes it and replies with it: the
request has run when the tasks have been run without failure, and nobody else takes
its outcome.  A failure of another task is no end of the wait.
-/

set_option autoImplicit false

namespace LiveTable

variable {closable : Bool} {limit : Nat}

namespace Machine

variable {machine after last : Machine} {activity : Activity} {first : Store} {ledger : Ledger}
  {id : Nat}

/-! ## Steps -/

theorem Faithful.step (faithful : Faithful first ledger machine) (calm : machine.Calm closable)
    (stepped : machine.step? = some after) : Faithful first (machine.enter ledger) after := by
  rcases calm.step stepped with ⟨activity, rest, agenda, ready, progress, _⟩
  have same := facing_rest agenda
  have kept := progress.faithful ready (same.symm ▸ faithful)
  rwa [same] at kept

/-- Whoever takes an outcome waits for it, or has a name for the request. -/
theorem sought_of_wanted {engine : Engine} (wanted : activity.wanted? engine = some id) :
    activity.sought? = some id ∨ ∃ name, (engine.handles name).request? = some id := by
  cases activity with
  | perform command =>
      cases command with
      | request asked =>
          cases asked with
          | take name => exact Or.inr ⟨name, wanted⟩
          | _ => contradiction
      | _ => contradiction
  | resolve other => exact Or.inl wanted
  | recheck other => exact Or.inl wanted
  | _ => contradiction

/-- A request whose outcome is taken in a step is wanted by what is carried out. -/
theorem wanted_of_noted? (taken : (machine.facing activity).noted? = some (.taken id)) :
    activity.wanted? machine.engine = some id := by
  rw [noted?, facing] at taken
  dsimp only at taken
  split at taken
  · contradiction
  · cases taken
  · rcases Option.map_eq_some_iff.mp taken with ⟨_, _, same⟩
    contradiction
  · cases taken
  · next same =>
      rcases List.cons.inj same with ⟨rfl, _⟩
      rcases Option.map_eq_some_iff.mp taken with ⟨found, among, same⟩
      rcases Entry.taken.inj same with rfl
      exact (Option.filter_eq_some_iff.mp among).1

/-! ## The ledger -/

theorem of_mem_taken (mentioned : id ∈ (machine.enter ledger).taken) :
    id ∈ ledger.taken ∨ machine.noted? = some (.taken id) := by
  cases noted : machine.noted? with
  | none =>
      rw [enter_of_none noted] at mentioned
      exact Or.inl mentioned
  | some entry =>
      rw [enter_of_some noted] at mentioned
      cases entry with
      | taken other =>
          rcases List.mem_append.mp mentioned with before | now
          · exact Or.inl before
          · rw [List.mem_singleton.mp now]
            exact Or.inr rfl
      | _ => exact Or.inl mentioned

/-- Requests are submitted at the beginning of a call only. -/
theorem Calm.submitted (calm : machine.Calm closable) (ledger : Ledger) :
    (machine.enter ledger).submitted = ledger.submitted := by
  cases noted : machine.noted? with
  | none => rw [enter_of_none noted]
  | some entry =>
      rw [enter_of_some noted]
      cases entry with
      | submitted id unit =>
          have quiet := calm.agenda
          rw [noted?] at noted
          split at noted
          · contradiction
          · next agenda =>
              rw [agenda, List.forall_mem_cons] at quiet
              rcases quiet.1 with ⟨loud, _⟩
              contradiction
          · rcases Option.map_eq_some_iff.mp noted with ⟨_, _, same⟩
            contradiction
          · cases noted
          · rcases Option.map_eq_some_iff.mp noted with ⟨_, _, same⟩
            contradiction
      | _ => rfl

/-- What a request was given is what it comes to in the sequence of all that were submitted. -/
theorem Faithful.own (faithful : Faithful first ledger machine) {own : Except Error Outcome}
    (settled : (id, own) ∈ ledger.settled) : (id, own) ∈ (first.sequence ledger.submitted).1 := by
  rw [faithful.order, Store.sequence_append, ← faithful.outcomes]
  exact List.mem_append_left _ (List.mem_append_left _ settled)

/-- Where no request waits, each one that was submitted and is untaken has its outcome. -/
theorem Faithful.present (faithful : Faithful first ledger machine)
    (settling : machine.settling = []) (waiting : machine.engine.waiting = [])
    (submitted : id ∈ ledger.submitted.map Prod.fst) (untaken : id ∉ ledger.taken) :
    ∃ own, machine.engine.outcomes.get? id = some own := by
  have ids := faithful.settled_ids
  rw [settling, List.map_nil, List.append_nil] at ids
  rw [faithful.order, waiting, List.append_nil, ← ids] at submitted
  rcases List.mem_map.mp submitted with ⟨⟨_, own⟩, settled, rfl⟩
  exact ⟨own, faithful.held settled untaken⟩

/-! ## Waiting for an outcome -/

/-- A request is waited for at the end of the agenda, and nobody else can take its outcome. -/
structure Awaits (id : Nat) (ledger : Ledger) (machine : Machine) : Prop where
  agenda : ∃ new last, machine.agenda = new ++ [last] ∧ last.sought? = some id ∧
    ∀ activity ∈ new, activity.sought? ≠ some id
  unnamed (name : String) : (machine.engine.handles name).request? ≠ some id
  submitted : id ∈ ledger.submitted.map Prod.fst
  untaken : id ∉ ledger.taken

/-- A machine has come to its end, and replies with the outcome that a request was given. -/
structure Answers (id : Nat) (ledger : Ledger) (machine : Machine) : Prop where
  agenda : machine.agenda = []
  reply : ∃ own, machine.reply = .outcome (some own) ∧ (id, own) ∈ ledger.settled

/-- What comes before the wait is carried out while the wait goes on. -/
theorem Awaits.pass {new : List Activity} {later : Activity}
    (awaits : Awaits id ledger (machine.facing activity)) (engine : machine.engine.Calm closable)
    (progress : Progress closable limit machine activity after)
    (rest : machine.agenda = new ++ [later]) (seeks : later.sought? = some id)
    (others : ∀ other ∈ activity :: new, other.sought? ≠ some id)
    (submitted : ((machine.facing activity).enter ledger).submitted = ledger.submitted) :
    Awaits id ((machine.facing activity).enter ledger) after := by
  rw [List.forall_mem_cons] at others
  rcases progress.agenda engine with ⟨added, agenda, sought⟩
  constructor
  · refine ⟨added ++ new, later, ?_, seeks, ?_⟩
    · rw [agenda, rest, List.append_assoc]
    · rw [List.forall_mem_append]
      refine ⟨fun other member same => ?_, others.2⟩
      rcases sought other member id same with same | ⟨name, stands⟩
      · exact others.1 same
      · exact awaits.unnamed name stands
  · exact fun name stands => awaits.unnamed name (progress.names engine stands)
  · rw [submitted]
    exact awaits.submitted
  · intro taken
    rcases of_mem_taken taken with before | now
    · exact awaits.untaken before
    · rcases sought_of_wanted (wanted_of_noted? now) with same | ⟨name, stands⟩
      · exact others.1 same
      · exact awaits.unnamed name stands

/-- When its turn comes, the wait ends with the outcome or tasks are run again. -/
theorem Awaits.turn (awaits : Awaits id ledger (machine.facing activity))
    (ready : Ready closable machine activity)
    (progress : Progress closable limit machine activity after)
    (faithful : Faithful first ledger (machine.facing activity))
    (rest : machine.agenda = []) (seeks : activity.sought? = some id) :
    Awaits id ((machine.facing activity).enter ledger) after ∨
      Answers id ((machine.facing activity).enter ledger) after := by
  cases progress with
  | works free silent unsought works =>
      rw [unsought] at seeks
      contradiction
  | @rerun _ other missing waits =>
      obtain rfl : other = id := by
        rcases waits with rfl | ⟨rfl, _⟩ <;> exact Option.some.inj seeks
      have wanted : activity.wanted? machine.engine = some other := by
        rcases waits with rfl | ⟨rfl, _⟩ <;> rfl
      rw [enter_of_none (noted?_of_missing wanted missing)]
      left
      refine { awaits with agenda := ⟨running, .recheck other, ?_, rfl, ?_⟩ }
      · simp only [next, rest, List.append_nil]
      · have fine : Fine closable 4 running := fine_running (Nat.lt_succ_self 3)
        intro later member same
        rw [fine.unsought later member] at same
        contradiction
  | @lost other missing reply =>
      obtain rfl : other = id := Option.some.inj seeks
      have drained : machine.engine.waiting = [] := by
        rcases ready.concluded rfl with ⟨outcome, replied, ended⟩
        cases outcome with
        | error error => exact absurd replied (reply error)
        | ok ran => exact ended ⟨ran, rfl⟩
      rcases faithful.present rfl drained awaits.submitted awaits.untaken with ⟨own, held⟩
      have there : machine.engine.outcomes.get? other = some own := held
      rw [missing] at there
      contradiction
  | @taken _ other own held wanted =>
      obtain rfl : other = id := by
        cases activity with
        | resolve sought => exact (Option.some.inj wanted).symm.trans (Option.some.inj seeks)
        | recheck sought => exact (Option.some.inj wanted).symm.trans (Option.some.inj seeks)
        | _ => contradiction
      have noted : (machine.facing activity).noted? = some (.taken other) := by
        rw [noted?_of_wanted wanted, OrderedMap.contains_eq_isSome, held]
        rfl
      right
      rw [enter_of_some noted]
      exact ⟨rest, own, rfl, (faithful.known held).2 awaits.submitted⟩
  | _ => contradiction

theorem Awaits.step (awaits : Awaits id ledger machine) (calm : machine.Calm closable)
    (faithful : Faithful first ledger machine) (stepped : machine.step? = some after) :
    Awaits id (machine.enter ledger) after ∨ Answers id (machine.enter ledger) after := by
  rcases calm.step stepped with ⟨activity, rest, agenda, ready, progress, _⟩
  have same := facing_rest agenda
  have submitted := calm.submitted ledger
  rw [← same] at awaits faithful submitted ⊢
  rcases awaits.agenda with ⟨new, later, shape, seeks, others⟩
  cases new with
  | nil =>
      rcases List.cons.inj shape with ⟨rfl, rfl⟩
      exact awaits.turn ready progress faithful rfl seeks
  | cons other new =>
      rcases List.cons.inj shape with ⟨rfl, rest⟩
      exact Or.inl (awaits.pass ready.engine progress rest seeks others submitted)

/-- A machine that waits for the outcome of a request replies with what the request comes to. -/
theorem Awaits.run (awaits : Awaits id ledger machine) (calm : machine.Calm closable)
    (faithful : Faithful first ledger machine) (ran : machine.run? limit = some last) :
    ∃ own, last.reply = .outcome (some own) ∧ (id, own) ∈ (first.sequence ledger.submitted).1 := by
  let Kept (machine : Machine) (now : Ledger) : Prop :=
    machine.Calm closable ∧ Faithful first now machine ∧ now.submitted = ledger.submitted ∧
      (Awaits id now machine ∨ Answers id now machine)
  have kept : Kept last (machine.ledgerAfter limit ledger) := by
    apply run?_ledger Kept ?_ ⟨calm, faithful, rfl, Or.inl awaits⟩ ran
    rintro machine after now ⟨calm, faithful, submitted, stage⟩ stepped
    refine ⟨calm.preserved stepped, faithful.step calm stepped,
      (calm.submitted now).trans submitted, ?_⟩
    rcases stage with awaits | answers
    · exact awaits.step calm faithful stepped
    · rw [step?_of_ended answers.agenda] at stepped
      contradiction
  rcases kept with ⟨_, faithfulLast, submitted, awaits | answers⟩
  · rcases awaits.agenda with ⟨new, later, agenda, _⟩
    rw [run?_agenda ran] at agenda
    exact absurd agenda.symm (List.append_ne_nil_of_right_ne_nil new (List.cons_ne_nil later []))
  · rcases answers.reply with ⟨own, reply, settled⟩
    exact ⟨own, reply, submitted ▸ faithfulLast.own settled⟩

end Machine

end LiveTable
