import LiveTable.Proofs.Engine.Fates
import LiveTable.Proofs.Value.Equality
import Mathlib.Data.List.Sort

/-!
# When the value of a binding is replaced

An execution that succeeds replaces the value of its binding unless its result equals the
value.  Every consumer is called with the new value once, in the order in which they came.

An execution and the replacement that it brings about are two steps of the machine, of which
the second follows upon the first.  So what is true between the steps is stated with the
replacement that is about to come.
-/

set_option autoImplicit false

namespace LiveTable

namespace Machine

variable {first machine after : Machine} {past : List Machine} {id : Nat}

/-! ## Executions -/

/-- The result of the execution of a binding that succeeds with the next step. -/
def executed? (id : Nat) (machine : Machine) : Option QueryResult :=
  machine.success?.bind fun success =>
    if success.owner = .binding id then some success.result else none

/-- That result, if it differs from the value that the binding holds. -/
def renewal? (id : Nat) (machine : Machine) : Option QueryResult :=
  (executed? id machine).filter fun result => !(machine.engine.valueOf? id).any (·.same result)

/-- The results of a binding that differed from the value held before, in their order. -/
def renewals (id : Nat) (past : List Machine) : List QueryResult :=
  gather (renewal? id) past

/-- The result by which the next step replaces the value of a binding. -/
def replaces? (id : Nat) (machine : Machine) : Option QueryResult :=
  match machine.agenda.head? with
  | some (.refresh target result) =>
    if target = id then
      (machine.engine.bindings.get? id).bind fun binding =>
        if binding.holds result then none else some result
    else none
  | _ => none

theorem replaces?_eq_none (not : ∀ result, machine.agenda.head? ≠ some (.refresh id result)) :
    replaces? id machine = none := by
  rw [replaces?]
  split
  · next target result head =>
      refine if_neg fun same => ?_
      exact not result (same ▸ head)
  · rfl

/-! ## The steps of a replacement -/

theorem renewal?_eq_none (noSuccess : machine.success? = none) : renewal? id machine = none := by
  rw [renewal?, executed?, noSuccess, Option.bind_none, Option.filter_none]

/-- The result of an execution is what the next step passes on to its binding. -/
theorem SucceedsTo.replaces? {success : Success} (succeeds : machine.SucceedsTo success after) :
    Machine.replaces? id after = renewal? id machine := by
  rcases succeeds.agenda with ⟨ran, rest, agenda, goesOn⟩
  rw [Machine.replaces?, goesOn, List.head?_cons, succeeds.bindings, renewal?, executed?,
    succeeds.succeeds, Option.bind_some]
  rcases success with ⟨owner, unit, result⟩
  cases owner with
  | cache target => rfl
  | binding target =>
      by_cases same : target = id
      · subst same
        rcases binding_of_success succeeds.succeeds rfl with ⟨binding, held, _⟩
        simp only [Success.told, if_true, held, Option.bind_some, Engine.valueOf?, Binding.holds,
          Option.filter_some]
        by_cases holds : binding.value?.any (·.same result) <;> simp [holds]
      · have other : Owner.binding target ≠ .binding id := fun is => same (Owner.binding.inj is)
        simp only [Success.told, same, if_false, other, Option.filter_none]

/-- What is about to replace a value after a turn is what the turn found to differ from it. -/
theorem TurnsTo.replaces? (turns : machine.TurnsTo after) (regular : machine.Regular) :
    Machine.replaces? id after = renewal? id machine := by
  rcases turns.turn.results regular.results with ⟨noSuccess, none⟩ | ⟨success, succeeds⟩
  · rw [renewal?_eq_none noSuccess]
    refine replaces?_eq_none fun result head => ?_
    exact absurd (none _ (List.mem_of_mem_head? head)) nofun
  · exact succeeds.replaces?

/-- What a binding holds and how often that was replaced, where it may be about to be replaced. -/
theorem refresh_value {target : Nat} {result : QueryResult} {rest : List Activity}
    (agenda : machine.agenda = .refresh target result :: rest)
    (does : after = refresh { machine with agenda := rest } target result) :
    after.engine.valueOf? id = (replaces? id machine).or (machine.engine.valueOf? id) ∧
      after.engine.versionOf id =
        machine.engine.versionOf id + (replaces? id machine).toList.length := by
  subst does
  have replaces : replaces? id machine =
      if target = id then
        (machine.engine.bindings.get? id).bind fun binding =>
          if binding.holds result then none else some result
      else none := by
    rw [Machine.replaces?, agenda]
    rfl
  rw [replaces, Engine.valueOf?, Engine.valueOf?, Engine.versionOf, Engine.versionOf, refresh]
  by_cases same : target = id
  · subst same
    cases held : machine.engine.bindings.get? target with
    | none => simp [held]
    | some binding =>
        by_cases holds : binding.holds result
        · simp [holds, held, next]
        · simp [holds, held, next, become, Engine.modifyBinding, OrderedMap.get?_modify]
  · have other : compare id target ≠ .eq := fun is =>
      same (Std.LawfulEqCmp.eq_of_compare is).symm
    cases machine.engine.bindings.get? target with
    | none => simp [same]
    | some binding =>
        by_cases holds : binding.holds result
        · simp [holds, same, next]
        · simp [holds, same, next, become, Engine.modifyBinding, OrderedMap.get?_modify, other]

/-- What a binding holds after a turn, and how often that was replaced. -/
theorem TurnsTo.value (turns : machine.TurnsTo after) (id : Nat) :
    after.engine.valueOf? id = (Machine.replaces? id machine).or (machine.engine.valueOf? id) ∧
      after.engine.versionOf id =
        machine.engine.versionOf id + (Machine.replaces? id machine).toList.length := by
  have same (not : ∀ result, machine.agenda.head? ≠ some (.refresh id result))
      (value : after.engine.valueOf? id = machine.engine.valueOf? id)
      (version : after.engine.versionOf id = machine.engine.versionOf id) :
      after.engine.valueOf? id = (Machine.replaces? id machine).or (machine.engine.valueOf? id) ∧
        after.engine.versionOf id =
          machine.engine.versionOf id + (Machine.replaces? id machine).toList.length := by
    rw [replaces?_eq_none not]
    exact ⟨value, version⟩
  have kept (renewsNot : machine.renews? ≠ some id)
      (not : ∀ result, machine.agenda.head? ≠ some (.refresh id result)) :=
    same not ((turns.retains.bindings id).value renewsNot)
      ((turns.retains.bindings id).version renewsNot)
  cases agenda : machine.agenda with
  | nil => exact kept (by simp [renews?, agenda]) (by simp [agenda])
  | cons activity rest =>
      cases activity with
      | refresh target result => exact refresh_value agenda (turns.turn.does agenda rfl)
      | refill target records =>
          have bindings : after.engine.bindings = machine.engine.bindings := by
            rw [turns.turn.does agenda rfl, act, refill]
            split <;> rfl
          refine same (by simp [agenda]) ?_ ?_
          · rw [Engine.valueOf?, bindings, ← Engine.valueOf?]
          · rw [Engine.versionOf, bindings, ← Engine.versionOf]
      | _ => exact kept (by simp [renews?, agenda]) (by simp [agenda])

/-! ## Whole courses -/

/-- The results that replaced a value, of which the last may be just about to do so. -/
structure Renewed (id : Nat) (machine : Machine) (past : List Machine) : Prop where
  value : (Machine.replaces? id machine).or (machine.engine.valueOf? id) =
    (renewals id past).getLast?
  version : machine.engine.versionOf id + (Machine.replaces? id machine).toList.length =
    (renewals id past).length
  /-- No two that follow each other are equal. -/
  differ : (renewals id past).IsChain fun former latter => former.same latter = false

theorem renewed_idle (name : String) (schema : StoreSchema) (config : Config) :
    Renewed id (Engine.create name schema config).idle [] :=
  ⟨rfl, rfl, .nil⟩

/-- The next step does not both execute a binding and replace its value. -/
theorem replaces?_of_success {success : Success} (succeeds : machine.success? = some success) :
    Machine.replaces? id machine = none := by
  refine replaces?_eq_none fun result head => ?_
  have noSuccess : machine.success? = none :=
    success?_eq_none fun ran rest agenda => by rw [agenda] at head; cases head
  rw [noSuccess] at succeeds
  contradiction

theorem replaces?_of_renewal {result : QueryResult} (renewal : renewal? id machine = some result) :
    Machine.replaces? id machine = none := by
  cases succeeds : machine.success? with
  | none => exact absurd ((renewal?_eq_none succeeds).symm.trans renewal) nofun
  | some success => exact replaces?_of_success succeeds

theorem Renewed.goes (renewed : Renewed id machine past) (turns : machine.TurnsTo after)
    (regular : machine.Regular) : Renewed id after (machine :: past) := by
  have replaces : Machine.replaces? id after = renewal? id machine := turns.replaces? regular
  have kept := turns.value id
  have more : renewals id (machine :: past) = renewals id past ++ (renewal? id machine).toList :=
    gather_cons ..
  refine ⟨?_, ?_, ?_⟩
  · rw [replaces, kept.1, renewed.value, more, List.getLast?_append]
    cases renewal? id machine <;> rfl
  · rw [replaces, kept.2, renewed.version, more, List.length_append]
  · rw [more]
    refine renewed.differ.append ?_ ?_
    · cases renewal? id machine <;> simp
    · intro former isLast latter isNext
      have renewal : renewal? id machine = some latter := by
        cases found : renewal? id machine <;> simp_all
      have held : machine.engine.valueOf? id = some former := by
        have value := renewed.value
        rw [replaces?_of_renewal renewal, Option.none_or] at value
        exact value.trans isLast
      have differs := (Option.filter_eq_some_iff.mp renewal).2
      rw [held] at differs
      simpa using differs

/-- In every course the value is the last of the results that replaced it, and they are counted. -/
theorem Renewed.leads (leads : first.Leads machine past) (regular : first.Regular)
    (initially : Renewed id first []) : Renewed id machine past := by
  induction leads with
  | refl => exact initially
  | next leads goes ih =>
      have before := regular.leads leads
      exact ih.goes (goes.turn before.apart) before

/-! ## What consumers are called with -/

/-- The calls of callbacks with a result. -/
def handing (numbers : List Nat) (result : QueryResult) : List (Nat × Notice) :=
  numbers.map (·, .result (some result))

/-- Of callbacks in the order of their numbers, those that are picked in that order are left. -/
theorem filter_eq_of_ascending {numbers posted : List Nat} (picked : numbers.Pairwise (· < ·))
    (ascending : posted.Pairwise (· < ·)) (stand : ∀ number ∈ numbers, number ∈ posted) :
    posted.filter (· ∈ numbers) = numbers := by
  refine (ascending.filter _).eq_of_mem_iff picked fun number => ?_
  rw [List.mem_filter, decide_eq_true_iff]
  exact ⟨And.right, fun member => ⟨stand number member, member⟩⟩

/-- Consumers are given just the result that replaces the value. -/
theorem gives_of_consumers {numbers : List Nat} (regular : machine.Regular)
    (belong : ∀ number ∈ numbers, machine.Belongs (.consumer id) number)
    (stand : ∀ number ∈ numbers, number ∈ machine.engine.posted (.consumer id))
    (ascending : numbers.Pairwise (· < ·)) :
    machine.gives.filter (·.1 ∈ numbers) =
      (replaces? id machine).toList.flatMap (handing numbers) := by
  by_cases refreshes : ∃ result, machine.agenda.head? = some (.refresh id result)
  · rcases refreshes with ⟨result, head⟩
    rw [gives, replaces?, head]
    simp only [if_true]
    cases held : machine.engine.bindings.get? id with
    | none =>
        have nobody : machine.engine.posted (.consumer id) = [] := by
          rw [Engine.posted, held]
          rfl
        rw [nobody]
        simp
    | some binding =>
        rw [Engine.valueOf?, held, Option.bind_some, Option.bind_some, Binding.holds]
        by_cases holds : binding.value?.any (·.same result)
        · simp [holds]
        · simp only [holds, Bool.false_eq_true, if_false, Option.toList_some,
            List.flatMap_singleton, handing, List.filter_map]
          exact congrArg _ (filter_eq_of_ascending ascending (regular.ascending _) stand)
  · have none : replaces? id machine = none :=
      replaces?_eq_none fun result head => refreshes ⟨result, head⟩
    rw [none, List.filter_eq_nil_iff.mpr]
    · rfl
    · intro call given picked
      rcases givesTo_of_mem given with ⟨post, gives⟩
      have is := (belong call.1 (of_decide_eq_true picked)).place post gives.stands
      cases gives with
      | consumer head _ =>
          rcases Post.consumer.inj is with rfl
          exact refreshes ⟨_, head⟩
      | _ => contradiction

/--
What consumers were called with since a machine, are due to be called with, and are about to be
given.
-/
structure Handed (id : Nat) (numbers : List Nat) (mark machine : Machine) (since : List Machine) :
    Prop where
  account : (calls since ++ due machine.agenda).filter (·.1 ∈ numbers) ++
      (Machine.replaces? id machine).toList.flatMap (handing numbers) =
    (due mark.agenda).filter (·.1 ∈ numbers) ++ (renewals id since).flatMap (handing numbers)
  /-- A value is not replaced while the consumers are being called with another. -/
  clear {result : QueryResult} : Machine.replaces? id machine = some result →
    (due machine.agenda).filter (·.1 ∈ numbers) = []

variable {numbers : List Nat} {mark : Machine} {since : List Machine}

theorem clear_of_drains (turns : machine.TurnsTo after) (regular : machine.Regular)
    (undisturbed : machine.drains → ∀ call ∈ due machine.agenda, call.1 ∉ numbers)
    {result : QueryResult} (replaces : replaces? id after = some result) :
    (due after.agenda).filter (·.1 ∈ numbers) = [] := by
  rw [turns.replaces? regular] at replaces
  rcases turns.turn.results regular.results with ⟨noSuccess, _⟩ | ⟨success, succeeds⟩
  · rw [renewal?_eq_none noSuccess] at replaces
    contradiction
  · rcases succeeds.agenda with ⟨ran, rest, agenda, goesOn⟩
    have same : due after.agenda = due machine.agenda := by
      rw [goesOn, agenda]
      rcases success with ⟨owner, unit, result⟩
      cases owner <;> rfl
    rw [same, List.filter_eq_nil_iff]
    intro call isDue picked
    exact undisturbed (by rw [drains, agenda]) call isDue (of_decide_eq_true picked)

theorem Handed.goes (handed : Handed id numbers mark machine since) (turns : machine.TurnsTo after)
    (regular : machine.Regular)
    (belong : ∀ number ∈ numbers, machine.Belongs (.consumer id) number)
    (stand : ∀ number ∈ numbers, number ∈ machine.engine.posted (.consumer id))
    (ascending : numbers.Pairwise (· < ·))
    (undisturbed : machine.drains → ∀ call ∈ due machine.agenda, call.1 ∉ numbers) :
    Handed id numbers mark after (machine :: since) := by
  refine ⟨?_, clear_of_drains turns regular undisturbed⟩
  have mayNot (call : Nat × Notice) (picked : decide (call.1 ∈ numbers)) :
      ¬ machine.MayCall call.1 :=
    (belong call.1 (of_decide_eq_true picked)).mayNot nofun
  have more : renewals id (machine :: since) = renewals id since ++ (renewal? id machine).toList :=
    gather_cons ..
  -- What is given comes before what is due, and one of the two is nothing.
  have swaps : machine.gives.filter (·.1 ∈ numbers) ++
        (due machine.agenda.tail).filter (·.1 ∈ numbers) =
      (due machine.agenda.tail).filter (·.1 ∈ numbers) ++
        (Machine.replaces? id machine).toList.flatMap (handing numbers) := by
    rw [gives_of_consumers regular belong stand ascending]
    cases replaces : Machine.replaces? id machine with
    | none => simp
    | some result =>
        have clear := handed.clear replaces
        rw [due_agenda, List.filter_append, List.append_eq_nil_iff] at clear
        rw [clear.2, List.append_nil, List.nil_append]
  have account := turns.turn.account since mayNot
  rw [List.append_assoc, swaps] at account
  rw [account, turns.replaces? regular, more, List.flatMap_append, ← List.append_assoc,
    ← List.append_assoc, ← handed.account, due_agenda machine]
  simp only [List.filter_append, List.append_assoc]

/-- Consumers that stay are called once for every result that replaces the value, and with it. -/
theorem handed_of_leads (regular : mark.Regular)
    (belong : ∀ number ∈ numbers, mark.Belongs (.consumer id) number)
    (ascending : numbers.Pairwise (· < ·)) (resting : replaces? id mark = none)
    (leads : mark.Leads machine since)
    (stand : ∀ number ∈ numbers, number ∈ machine.engine.posted (.consumer id))
    (undisturbed : ∀ machine ∈ since, machine.drains →
      ∀ call ∈ due machine.agenda, call.1 ∉ numbers) :
    Handed id numbers mark machine since := by
  induction leads with
  | refl =>
      refine ⟨?_, fun replaces => ?_⟩
      · rw [resting]
        rfl
      · rw [resting] at replaces
        contradiction
  | @next machine after since leads goes ih =>
      have before := regular.leads leads
      have turns := goes.turn before.apart
      have belong (number : Nat) (picked : number ∈ numbers) :
          machine.Belongs (.consumer id) number :=
        (belong number picked).leads regular leads
      have stood (number : Nat) (picked : number ∈ numbers) :
          number ∈ machine.engine.posted (.consumer id) := by
        rcases (turns.retains.bindings id).consumers.mem (stand number picked) with old | ⟨low, _⟩
        · exact old
        · exact absurd (belong number picked).given (Nat.not_lt_of_le low)
      rcases List.forall_mem_cons.mp undisturbed with ⟨now, earlier⟩
      exact (ih stood earlier).goes turns before belong stood ascending now

/-- A single consumer was called with all results that replaced the value, and nothing else. -/
theorem Handed.told {number : Nat} (handed : Handed id [number] mark machine since)
    (resting : Machine.replaces? id machine = none)
    (silent : ∀ call ∈ due mark.agenda ++ due machine.agenda, call.1 ≠ number) :
    told since number = (renewals id since).map (.result ∘ some) := by
  rcases List.forall_mem_append.mp silent with ⟨before, after⟩
  have nothing {calls : List (Nat × Notice)} (other : ∀ call ∈ calls, call.1 ≠ number) :
      calls.filter (·.1 ∈ [number]) = [] := by
    refine List.filter_eq_nil_iff.mpr fun call member picked => other call member ?_
    simpa using picked
  have account := handed.account
  rw [List.filter_append, nothing before, nothing after, resting] at account
  have single : (fun call : Nat × Notice => decide (call.1 ∈ [number])) = (·.1 == number) := by
    funext call
    simp [beq_eq_decide]
  simp only [single, List.append_nil, Option.toList_none, List.flatMap_nil, List.nil_append]
    at account
  rw [Machine.told, account, List.map_flatMap]
  simp [handing, ← List.map_eq_flatMap]

/-- An execution that fails leaves every value as it is. -/
theorem failed_leaves_values {run : UnitRun} {failure : OperationFailure}
    (turns : machine.TurnsTo after) (regular : machine.Regular)
    (runs : machine.unitRun? = some run) (fails : run.outcome = .error failure) (id : Nat) :
    after.engine.valueOf? id = machine.engine.valueOf? id ∧
      after.engine.versionOf id = machine.engine.versionOf id ∧
      ∀ result, .refresh id result ∉ after.agenda := by
  have noSuccess : machine.success? = none := by
    rw [success?, runs, Option.bind_some, UnitRun.success?, fails]
    split <;> first | contradiction | rfl
  have none : Machine.replaces? id machine = none := by
    refine replaces?_eq_none fun result head => ?_
    rw [unitRun?] at runs
    split at runs
    · next agenda _ =>
        rw [agenda] at head
        cases head
    · contradiction
  have value := turns.value id
  rw [none] at value
  refine ⟨value.1, value.2, fun result member => ?_⟩
  rcases turns.turn.results regular.results with ⟨_, quiet⟩ | ⟨success, succeeds⟩
  · have not := quiet _ member
    contradiction
  · have is := noSuccess.symm.trans succeeds.succeeds
    contradiction

/-! ## Equal results are suppressed -/

/--
Equal results are suppressed.  Whenever no result is just being given to a binding, its version
counts the executions whose result differed from the value held before, and its value is the last
of these results, of which no two that follow each other are equal; a failed execution changes
neither.  From a machine `mark` on, the consumers that stay registered are called once for every
such result, with it and in the order of their registration, and with nothing else, as long as
the queue is not drained while they are being called.
-/
theorem equal_results_suppressed
    {name : String} {schema : StoreSchema} {config : Config} {mark machine : Machine}
    {early since : List Machine} {id : Nat}
    (course : (Engine.create name schema config).idle.Leads mark early)
    (leads : mark.Leads machine since)
    (resting : ∀ result, machine.agenda.head? ≠ some (.refresh id result)) :
    machine.engine.versionOf id = (renewals id (since ++ early)).length ∧
    machine.engine.valueOf? id = (renewals id (since ++ early)).getLast? ∧
    (renewals id (since ++ early)).IsChain (fun former latter => former.same latter = false) ∧
    (∀ run failure after, machine.unitRun? = some run → run.outcome = .error failure →
      machine.Goes after →
      after.engine.valueOf? id = machine.engine.valueOf? id ∧
        after.engine.versionOf id = machine.engine.versionOf id ∧
        ∀ result, .refresh id result ∉ after.agenda) ∧
    ∀ numbers : List Nat, (∀ result, mark.agenda.head? ≠ some (.refresh id result)) →
      numbers.Sublist (mark.engine.posted (.consumer id)) →
      (∀ number ∈ numbers, number ∈ machine.engine.posted (.consumer id)) →
      (∀ machine ∈ since, machine.drains → ∀ call ∈ due machine.agenda, call.1 ∉ numbers) →
      (calls since ++ due machine.agenda).filter (·.1 ∈ numbers) =
          (due mark.agenda).filter (·.1 ∈ numbers) ++
            (renewals id since).flatMap (fun result => numbers.map (·, .result (some result))) ∧
        ∀ number ∈ numbers, (∀ call ∈ due mark.agenda ++ due machine.agenda, call.1 ≠ number) →
          told since number = (renewals id since).map (.result ∘ some) := by
  have regularMark : mark.Regular := (regular_idle name schema config).leads course
  have regular : machine.Regular := regularMark.leads leads
  have renewed : Renewed id machine (since ++ early) :=
    .leads (course.append leads) (regular_idle name schema config) (renewed_idle name schema config)
  have none : replaces? id machine = none := replaces?_eq_none resting
  have version := renewed.version
  have value := renewed.value
  rw [none] at version value
  refine ⟨version, value, renewed.differ, fun run failure after runs fails goes =>
    failed_leaves_values (goes.turn regular.apart) regular runs fails id, ?_⟩
  intro numbers resting registered stay undisturbed
  have belong (number : Nat) (picked : number ∈ numbers) : mark.Belongs (.consumer id) number :=
    regularMark.belongs_of_stands (.there (.inl (registered.subset picked)))
  constructor
  · have handed : Handed id numbers mark machine since :=
      handed_of_leads regularMark belong ((regularMark.ascending _).sublist registered)
        (replaces?_eq_none resting) leads stay undisturbed
    have account := handed.account
    rwa [none, Option.toList_none, List.flatMap_nil, List.append_nil] at account
  · intro number picked silent
    have alone {Holds : Nat → Prop} (holds : ∀ number ∈ numbers, Holds number) :
        ∀ other ∈ [number], Holds other :=
      List.forall_mem_singleton.mpr (holds number picked)
    have handed : Handed id [number] mark machine since := by
      refine handed_of_leads regularMark (alone belong) (List.pairwise_singleton _ _)
        (replaces?_eq_none resting) leads (alone stay) fun machine member drains call isDue is => ?_
      exact undisturbed machine member drains call isDue (List.mem_singleton.mp is ▸ picked)
    exact handed.told none silent

/--
Two consumers watch a binding that is executed four times: on the empty table, on the same again,
on a table with a row, and after the row was put once more.  Two of the results differ.
-/
theorem equal_results_suppressed_of_run :
    let first : Engine := .create "s" ⟨1, [⟨"t", "id", false, []⟩]⟩ .standard
    let reaction : Reaction Command := ⟨"c", [], 0⟩
    let put : Command := .request (.submit none "t" (.put (.ofList [("id", .integer 1)])))
    let mark := course 60 first.idle
      [.binding (.create "b" "t" .all), .binding (.subscribe "b" reaction),
        .binding (.subscribe "b" reaction)]
    let later := course 60 mark.1 [.run, .binding (.refresh "b"), .run, put, .run, put, .run]
    later.1.engine.versionOf 2 = 2 ∧ (renewals 2 (later.2 ++ mark.2)).length = 2 ∧
      told later.2 4 = (renewals 2 later.2).map (.result ∘ some) ∧
      (calls later.2).filter (·.1 ∈ [4, 6]) =
        (renewals 2 later.2).flatMap fun result => [4, 6].map (·, .result (some result)) := by
  intro first reaction put mark later
  have finished : mark.1.agenda.isEmpty ∧ later.1.agenda.isEmpty := by
    subst later mark put reaction first
    decide +kernel
  have facts : later.1.engine.versionOf 2 = 2 ∧
      [4, 6].Sublist (mark.1.engine.posted (.consumer 2)) ∧
      (∀ number ∈ [4, 6], number ∈ later.1.engine.posted (.consumer 2)) ∧
      (∀ machine ∈ later.2, machine.drains → ∀ call ∈ due machine.agenda, call.1 ∉ [4, 6]) := by
    subst later mark put reaction first
    decide +kernel
  have early : first.idle.Leads mark.1 mark.2 := leads_course 60 first.idle _
  have since : mark.1.Leads later.1 later.2 := leads_course 60 mark.1 _
  clear_value later mark
  have before : mark.1.agenda = [] := List.isEmpty_iff.mp finished.1
  have after : later.1.agenda = [] := List.isEmpty_iff.mp finished.2
  rcases facts with ⟨version, registered, stay, undisturbed⟩
  rcases equal_results_suppressed early since (by simp [after]) with
    ⟨counted, _, _, _, handed⟩
  rcases handed [4, 6] (by simp [before]) registered stay undisturbed with
    ⟨account, told⟩
  rw [before, after] at account told
  refine ⟨version, counted.symm.trans version,
    told 4 List.mem_cons_self (List.forall_mem_nil _), ?_⟩
  rw [due, List.filterMap_nil, List.append_nil] at account
  exact account

end Machine

end LiveTable
