import LiveTable.Proofs.Engine.Renewals

/-!
# What fetches are answered with

A fetch that changes the table or the descriptor of a binding lets its callback wait.  All who
wait are called when the binding is served, which comes behind the calls of its consumers and
follows upon every execution that succeeds.

So a callback is called once at most, with the value that the latest execution has left.  That
execution began after the fetch, unless the binding was about to be served when the fetch was
made: then the callback still joins those who are served with the value of an earlier one.
-/

set_option autoImplicit false

namespace LiveTable

namespace Machine

variable {first machine after : Machine} {past since : List Machine} {id number : Nat}

/-! ## Being served -/

theorem posted_of_serve {rest : List Activity} (agenda : machine.agenda = .serve id :: rest)
    (turn : machine.Turn after) : after.engine.posted (.fetcher id) = [] := by
  rw [turn.does agenda rfl, act, serve, Engine.posted]
  dsimp only
  split
  · next none =>
      rw [none]
      rfl
  · next binding held =>
      change Binding.fetchersOf ((machine.engine.bindings.modify id _).get? id) = []
      rw [OrderedMap.get?_modify, if_pos (Std.ReflCmp.compare_self), held]
      rfl

/-- The callback of a fetch is called when its binding is served, with what the binding holds. -/
theorem gives_of_fetcher (regular : machine.Regular)
    (belongs : machine.Belongs (.fetcher id) number) :
    machine.gives.filter (·.1 == number) = [] ∨
      machine.agenda.head? = some (.serve id) ∧
        machine.gives.filter (·.1 == number) =
          [(number, .result (machine.engine.valueOf? id))] := by
  refine or_iff_not_imp_left.mpr fun some => ?_
  rcases List.exists_mem_of_ne_nil _ some with ⟨call, member⟩
  rcases List.mem_filter.mp member with ⟨given, same⟩
  rcases beq_iff_eq.mp same with rfl
  rcases givesTo_of_mem given with ⟨post, gives⟩
  have is := belongs.place post gives.stands
  cases gives with
  | fetcher head posted =>
      rw [Post.fetcher.inj is] at head posted
      refine ⟨head, ?_⟩
      have once : (machine.engine.posted (.fetcher id)).filter (· == call.1) = [call.1] := by
        rw [List.filter_beq, List.count_eq_one_of_mem (regular.ascending _).nodup posted]
        rfl
      rw [gives, head]
      simp only [List.filter_map]
      exact congrArg (List.map _) once
  | _ => contradiction

/-- How far it has come with the callback of a fetch. -/
inductive Fetching (id number : Nat) (machine : Machine) (since : List Machine) : Prop where
  /-- It was not called and is not due to be called. -/
  | waits (silent : account number machine since = [])
  /-- The binding was served, and the callback was called then or is due to be called. -/
  | served {later earlier : List Machine} {serving : Machine}
      (passed : since = later ++ serving :: earlier)
      (serves : serving.agenda.head? = some (.serve id))
      (once : account number machine since = [(number, .result (serving.engine.valueOf? id))])
      (nowhere : ∀ post, ¬ machine.Stands post number)

theorem Fetching.goes (fetching : Fetching id number machine since)
    (belongs : machine.Belongs (.fetcher id) number) (regular : machine.Regular)
    (turns : machine.TurnsTo after) : Fetching id number after (machine :: since) := by
  have account := belongs.account (by simp) turns.turn since
  cases fetching with
  | waits silent =>
      rw [account_eq, List.append_eq_nil_iff] at silent
      rw [silent.1, silent.2, List.nil_append, List.append_nil] at account
      rcases gives_of_fetcher regular belongs with nothing | ⟨serves, given⟩
      · exact .waits (account.trans nothing)
      · refine .served (List.nil_append _).symm serves (account.trans given) fun post stands => ?_
        rcases List.head?_eq_some_iff.mp serves with ⟨rest, agenda⟩
        rcases (belongs.goes turns).place post stands with rfl
        rcases stands with ⟨posted | ⟨is, _⟩⟩
        · rw [posted_of_serve agenda turns.turn] at posted
          contradiction
        · contradiction
  | served passed serves once nowhere =>
      have onceAfter :=
        (belongs.account_of_gives (by simp) turns.turn (gives_of_nowhere nowhere)).trans once
      have passed := List.cons_append.symm ▸ congrArg (machine :: ·) passed
      refine .served passed serves onceAfter fun post stands => ?_
      exact nowhere post (belongs.stood turns stands)

/-! ## Executions that are answered with -/

/-- A binding is given a result, or is about to be served. -/
def Applies (id : Nat) (machine : Machine) : Prop :=
  .serve id ∈ machine.agenda ∨ ∃ result, machine.agenda.head? = some (.refresh id result)

theorem applies_of_turn (turns : machine.TurnsTo after) (regular : machine.Regular)
    (applies : Applies id after) : Applies id machine ∨ (executed? id machine).isSome := by
  rcases applies with serves | ⟨result, refreshes⟩
  · rcases turns.turn.comes with ⟨added, agenda, comes⟩
    rw [agenda] at serves
    rcases List.mem_append.mp serves with new | old
    · generalize is : Activity.serve id = activity at new
      cases comes activity new with
      | ordinary ordinary => exact (is ▸ ordinary).elim
      | follows follows =>
          subst is
          exact .inl (.inr follows)
      | renews renews =>
          subst is
          contradiction
      | calls => contradiction
    · exact .inl (.inl (List.mem_of_mem_tail old))
  · rcases turns.turn.results regular.results with ⟨_, none⟩ | ⟨success, succeeds⟩
    · exact absurd (none _ (List.mem_of_mem_head? refreshes)) nofun
    · rcases succeeds.agenda with ⟨ran, rest, _, goesOn⟩
      rw [goesOn, List.head?_cons, Option.some.injEq] at refreshes
      rcases success with ⟨owner, unit, answer⟩
      cases owner with
      | cache target => contradiction
      | binding target =>
          rcases Activity.refresh.inj refreshes with ⟨rfl, _⟩
          right
          rw [executed?, succeeds.succeeds, Option.bind_some, if_pos rfl]
          rfl

/-- What is about to be served was executed since, or was about to be served before. -/
theorem applies_of_leads (leads : first.Leads machine past) (regular : first.Regular)
    (applies : Applies id machine) :
    Applies id first ∨ ∃ passed ∈ past, (executed? id passed).isSome := by
  induction leads with
  | refl => exact .inl applies
  | @next machine after past leads goes ih =>
      have before := regular.leads leads
      rcases applies_of_turn (goes.turn before.apart) before applies with applied | executed
      · exact (ih applied).imp_right fun ⟨passed, member, executed⟩ =>
          ⟨passed, List.mem_cons_of_mem _ member, executed⟩
      · exact .inr ⟨machine, List.mem_cons_self, executed⟩

/-- The latest execution of a binding up to now, with what it ran and came to. -/
structure Latest (id : Nat) (executing : Machine) (newer : List Machine) (current : Binding)
    (result : QueryResult) : Prop where
  held : executing.engine.bindings.get? id = some current
  succeeds : executing.success? =
    some ⟨.binding id, ⟨current.table, current.descriptor.mode, .query current.descriptor⟩, result⟩
  none : ∀ machine ∈ newer, executed? id machine = none

/-- An execution ran the query of its binding, as the binding was then. -/
theorem of_executed {result : QueryResult} (executed : executed? id machine = some result) :
    ∃ current, machine.engine.bindings.get? id = some current ∧
      machine.success? = some ⟨.binding id,
        ⟨current.table, current.descriptor.mode, .query current.descriptor⟩, result⟩ := by
  rcases Option.bind_eq_some_iff.mp executed with ⟨⟨owner, unit, answer⟩, succeeds, own⟩
  split at own
  · next is =>
      rcases Option.some.inj own with rfl
      rcases binding_of_success succeeds is with ⟨current, held, prepared⟩
      rw [Binding.unit?] at prepared
      split at prepared
      · contradiction
      · refine ⟨current, held, ?_⟩
        rw [succeeds, Option.some.inj prepared, show owner = .binding id from is]
  · contradiction

theorem latest_of_executed (executed : ∃ passed ∈ past, (executed? id passed).isSome) :
    ∃ newer executing older current result,
      past = newer ++ executing :: older ∧ Latest id executing newer current result := by
  have some : (past.find? fun passed => (executed? id passed).isSome).isSome :=
    List.find?_isSome.mpr executed
  rcases Option.isSome_iff_exists.mp some with ⟨executing, found⟩
  rcases List.find?_eq_some_iff_append.mp found with ⟨executed, newer, older, split, none⟩
  rcases Option.isSome_iff_exists.mp executed with ⟨result, executed⟩
  rcases of_executed executed with ⟨current, held, succeeds⟩
  refine ⟨newer, executing, older, current, result, split, held, succeeds, fun passed member => ?_⟩
  have not := none passed member
  cases found : executed? id passed with
  | none => rfl
  | some result =>
      rw [found] at not
      contradiction

/-- What a binding holds equals the result of its latest execution. -/
theorem value_of_latest {newer older : List Machine} {executing : Machine} {current : Binding}
    {result : QueryResult} (leads : first.Leads machine (newer ++ executing :: older))
    (regular : first.Regular) (initially : Renewed id first [])
    (resting : replaces? id machine = none)
    (latest : Latest id executing newer current result) :
    ∃ value, machine.engine.valueOf? id = some value ∧ value.same result := by
  have now : Renewed id machine (newer ++ executing :: older) := .leads leads regular initially
  have earlier : Renewed id executing older := .leads leads.split.1 regular initially
  have executed : executed? id executing = some result := by
    rw [executed?, latest.succeeds, Option.bind_some, if_pos rfl]
  have nothing : renewals id newer = [] := by
    rw [renewals, gather, List.filterMap_eq_nil_iff]
    intro passed member
    rw [renewal?, latest.none passed (List.mem_reverse.mp member), Option.filter_none]
  have value : machine.engine.valueOf? id =
      (renewals id older ++ (renewal? id executing).toList).getLast? := by
    have kept := now.value
    rw [resting, Option.none_or, renewals, gather_append, ← renewals, ← renewals, nothing,
      List.append_nil, renewals, gather_cons, ← renewals] at kept
    exact kept
  by_cases same : (executing.engine.valueOf? id).any (·.same result)
  · have unchanged : renewal? id executing = none := by
      rw [renewal?, executed, Option.filter_some, same]
      rfl
    have before := earlier.value
    rw [replaces?_of_success latest.succeeds, Option.none_or] at before
    rw [unchanged, Option.toList_none, List.append_nil, ← before] at value
    rcases (Option.any_eq_true _ _).mp same with ⟨held, holds, equal⟩
    exact ⟨held, value.trans holds, equal⟩
  · have renewed : renewal? id executing = some result := by
      rw [renewal?, executed, Option.filter_some, Bool.eq_false_iff.mpr same]
      rfl
    rw [renewed, Option.toList_some, List.getLast?_concat] at value
    exact ⟨result, value, result.same_refl⟩

end Machine

/-! ## Fetching -/

/-- Whether a fetch asks a binding for another table or another descriptor. -/
def Binding.isChangedBy (binding : Binding) (table? : Option String)
    (descriptor? : Option Descriptor) : Bool :=
  table?.any (· != binding.table) || descriptor?.any (!binding.descriptor.same ·)

/-- The binding with what a fetch asks for, and somebody who waits. -/
def Binding.asked (binding : Binding) (table? : Option String) (descriptor? : Option Descriptor)
    (callback : Callback) : Binding :=
  { binding with
    table := table?.getD binding.table
    descriptor := (descriptor?.filter (!binding.descriptor.same ·)).getD binding.descriptor
    waiting := binding.waiting ++ [callback] }

namespace Engine

variable {engine : Engine} {id : Nat} {binding : Binding} {table? : Option String}
  {descriptor? : Option Descriptor} {callback : Callback}

theorem isNone_of_changes :
    ((table?.filter (· != binding.table)).isNone &&
      (descriptor?.filter (!binding.descriptor.same ·)).isNone) =
        !binding.isChangedBy table? descriptor? := by
  rw [Binding.isChangedBy, Bool.not_or]
  congr 1
  · cases table? <;> simp
  · cases descriptor? <;> simp

theorem fetch_of_unchanged (same : binding.isChangedBy table? descriptor? = false) :
    engine.fetch id binding table? descriptor? callback = (false, engine) := by
  simp only [fetch, isNone_of_changes, same, Bool.not_false, if_true]

@[simp]
theorem bindings_watch (engine : Engine) (id : Nat) (table : String) (watcher : Watcher) :
    (engine.watch id table watcher).bindings = engine.bindings :=
  engine.attach_frame.2.1

theorem fetch_of_changed (held : engine.bindings.get? id = some binding)
    (changed : binding.isChangedBy table? descriptor?) :
    (engine.fetch id binding table? descriptor? callback).1 = true ∧
      (engine.fetch id binding table? descriptor? callback).2.bindings.get? id =
        some (binding.asked table? descriptor? callback) := by
  simp only [fetch, isNone_of_changes, changed, Bool.not_true, Bool.false_eq_true, if_false]
  cases asksTable : table?.filter (· != binding.table) with
  | none =>
      have kept : table?.getD binding.table = binding.table := by
        cases table? with
        | none => rfl
        | some table =>
            refine Classical.byContradiction fun other => ?_
            have asks : (table != binding.table) = true := bne_iff_ne.mpr other
            rw [Option.filter_some, if_pos asks] at asksTable
            contradiction
      refine ⟨rfl, ?_⟩
      rw [requestBinding_bindings, get?_modifyBinding, if_pos rfl, held, Option.map_some,
        Binding.asked, kept]
  | some table =>
      rcases Option.filter_eq_some_iff.mp asksTable with ⟨rfl, other⟩
      refine ⟨rfl, ?_⟩
      have differs : binding.table ≠ table := fun same => by simp [same] at other
      simp only [setTable, if_neg differs]
      rw [requestBinding_bindings]
      split
      · rw [get?_modifyBinding, if_pos rfl, get?_modifyBinding, if_pos rfl, held]
        rfl
      · rw [bindings_watch, get?_modifyBinding, if_pos rfl, get?_modifyBinding, if_pos rfl, held]
        rfl

end Engine

namespace Machine

variable {machine after asking next : Machine} {before since : List Machine} {id : Nat}
  {fetchName : String} {table? : Option String} {descriptor? : Option Descriptor}
  {reaction : Reaction Command} {binding : Binding} {rest : List Activity}

/-- What a fetch is, as a step of the machine that is asked for it. -/
theorem fetch_steps (found : asking.engine.binding? fetchName = some (id, binding))
    (agenda : asking.agenda =
      .perform (.binding (.fetch fetchName table? descriptor? reaction)) :: rest)
    (stepped : asking.step? = some next) :
    let callback : Callback := ⟨asking.engine.nextId + 1, reaction⟩
    let engine := (asking.engine.allocate.2.register reaction).2
    let fetched := engine.fetch id binding table?
      (descriptor?.map (·.issued asking.engine.nextId)) callback
    let held := if fetched.1 then none else binding.value?
    next.engine = fetched.2.hold (.object id) ∧
      next.agenda = (held.toList.map fun value => .call callback (.result (some value))) ++
        [.answer .nothing] ++ [.letGo (.object id)] ++ rest := by
  rcases of_step? stepped with ⟨activity, others, is, rfl⟩
  rcases List.cons.inj (agenda.symm.trans is) with ⟨rfl, rfl⟩
  have foundThen : asking.engine.allocate.2.binding? fetchName = some (id, binding) := found
  simp only [act, perform, performBinding, BindingCommand.issued, performIssued, become]
  change Machine.engine (withBinding _ _ _) = _ ∧ Machine.agenda (withBinding _ _ _) = _
  simp only [withBinding, foundThen]
  exact ⟨rfl, rfl⟩

/-- A fetch that changes the binding makes it ask anew, and its callback waits. -/
theorem fetch_asks (found : asking.engine.binding? fetchName = some (id, binding))
    (agenda : asking.agenda =
      .perform (.binding (.fetch fetchName table? descriptor? reaction)) :: rest)
    (stepped : asking.step? = some next)
    (changed : binding.isChangedBy table? (descriptor?.map (·.issued asking.engine.nextId))) :
    next.agenda = [.answer .nothing, .letGo (.object id)] ++ rest ∧
      next.engine.bindings.get? id = some (binding.asked table?
        (descriptor?.map (·.issued asking.engine.nextId))
        ⟨asking.engine.nextId + 1, reaction⟩) := by
  have held : (asking.engine.allocate.2.register reaction).2.bindings.get? id = some binding :=
    Engine.held_of_binding? found
  rcases fetch_steps found agenda stepped with ⟨engine, goesOn⟩
  rcases Engine.fetch_of_changed held changed with ⟨waits, asked⟩
  rw [waits] at goesOn
  rw [engine]
  exact ⟨goesOn, asked⟩

/-- A fetch that changes nothing calls back at once, if there is a value. -/
theorem fetch_calls (found : asking.engine.binding? fetchName = some (id, binding))
    (agenda : asking.agenda =
      .perform (.binding (.fetch fetchName table? descriptor? reaction)) :: rest)
    (stepped : asking.step? = some next)
    (same : binding.isChangedBy table? (descriptor?.map (·.issued asking.engine.nextId)) = false) :
    next.engine.bindings = asking.engine.bindings ∧
      next.agenda = (binding.value?.toList.map fun value =>
          .call ⟨asking.engine.nextId + 1, reaction⟩ (.result (some value))) ++
        [.answer .nothing] ++ [.letGo (.object id)] ++ rest := by
  rcases fetch_steps found agenda stepped with ⟨engine, goesOn⟩
  rw [Engine.fetch_of_unchanged same] at engine goesOn
  rw [engine]
  exact ⟨rfl, goesOn⟩

/-- The callback of a fetch belongs to the binding from then on. -/
theorem registers?_of_fetch (found : asking.engine.binding? fetchName = some (id, binding))
    (agenda : asking.agenda =
      .perform (.binding (.fetch fetchName table? descriptor? reaction)) :: rest) :
    asking.registers? = some (.fetcher id, asking.engine.nextId + 1) := by
  rw [registers?, agenda]
  simp only [Command.registers?, BindingCommand.registers?, found, Option.map_some]

/-- After a fetch that changes the binding, its callback waits, or the binding was served. -/
theorem fetching_of_leads {number : Nat} {next : Machine} (regular : next.Regular)
    (belongs : next.Belongs (.fetcher id) number) (leads : next.Leads machine since)
    (silent : ∀ call ∈ due next.agenda, call.1 ≠ number) : Fetching id number machine since := by
  induction leads with
  | refl =>
      refine .waits (List.filter_eq_nil_iff.mpr fun call isDue same => ?_)
      exact silent call isDue (beq_iff_eq.mp same)
  | next leads goes ih =>
      have before := regular.leads leads
      exact ih.goes (belongs.leads regular leads) before (goes.turn before.apart)

/-- Whenever a binding is served, it holds what its latest execution came to. -/
theorem latest_of_serving {name : String} {schema : StoreSchema} {config : Config}
    {serving : Machine} {earlier : List Machine}
    (course : (Engine.create name schema config).idle.Leads asking before)
    (goes : asking.Goes next) (leads : next.Leads serving earlier)
    (serves : serving.agenda.head? = some (.serve id)) :
    ∃ newer executing older current result value,
      serving.engine.valueOf? id = some value ∧
      earlier ++ asking :: before = newer ++ executing :: older ∧
      Latest id executing newer current result ∧ value.same result ∧
      (¬ Applies id next → ∃ between, earlier = newer ++ executing :: between) := by
  have idle := regular_idle name schema config
  have whole := (course.next goes).append leads
  have regular : next.Regular := (idle.leads course).goes goes
  have applies : Applies id serving := .inl (List.mem_of_mem_head? serves)
  have resting : replaces? id serving = none :=
    replaces?_eq_none fun result head => absurd (head.symm.trans serves) nofun
  have value {newer older : List Machine} {executing : Machine} {current : Binding}
      {result : QueryResult} (split : earlier ++ asking :: before = newer ++ executing :: older)
      (latest : Latest id executing newer current result) :
      ∃ value, serving.engine.valueOf? id = some value ∧ value.same result :=
    value_of_latest (split ▸ whole) idle (renewed_idle name schema config) resting latest
  rcases applies_of_leads leads regular applies with before | since
  · have executed := (applies_of_leads whole idle applies).resolve_left
      (by simp [Applies, Engine.idle])
    rcases latest_of_executed executed with
      ⟨newer, executing, older, current, result, split, latest⟩
    rcases value split latest with ⟨value, held, same⟩
    exact ⟨newer, executing, older, current, result, value, held, split, latest, same,
      fun not => absurd before not⟩
  · rcases latest_of_executed since with
      ⟨newer, executing, between, current, result, rfl, latest⟩
    have split := List.append_assoc newer (executing :: between) (asking :: before)
    rcases value split latest with ⟨value, held, same⟩
    exact ⟨newer, executing, _, current, result, value, held, split, latest, same,
      fun _ => ⟨between, rfl⟩⟩

/--
What the callback of a fetch is called with.  If the fetch changes nothing it is called at once
with the value that is held, if there is one, and never again.  Otherwise the binding has what
was asked for, and the callback is called at most once, when the binding is served, with a value
that equals the result of the latest execution of the binding; and unless the binding was
about to be served when the fetch was made, that execution began after the fetch.
-/
theorem fetches_answered {name : String} {schema : StoreSchema} {config : Config}
    (course : (Engine.create name schema config).idle.Leads asking before)
    (agenda : asking.agenda =
      .perform (.binding (.fetch fetchName table? descriptor? reaction)) :: rest)
    (found : asking.engine.binding? fetchName = some (id, binding))
    (stepped : asking.step? = some next) (leads : next.Leads machine since) :
    let number := asking.engine.nextId + 1
    let issued? := descriptor?.map (·.issued asking.engine.nextId)
    (binding.isChangedBy table? issued? →
      next.engine.bindings.get? id = some (binding.asked table? issued? ⟨number, reaction⟩) ∧
        (told since number = [] ∨
          ∃ later serving earlier newer executing older current result value,
            since = later ++ serving :: earlier ∧
            serving.agenda.head? = some (.serve id) ∧
            told since number = [.result (some value)] ∧
            earlier ++ asking :: before = newer ++ executing :: older ∧
            Latest id executing newer current result ∧ value.same result ∧
            (.serve id ∉ asking.agenda → ∃ between, earlier = newer ++ executing :: between))) ∧
    (binding.isChangedBy table? issued? = false →
      told since number =
        if since = [] then [] else (binding.value?.map (.result ∘ some)).toList) := by
  intro number issued?
  have regularAsking : asking.Regular := (regular_idle name schema config).leads course
  have goes : asking.Goes next := .step stepped
  have regular : next.Regular := regularAsking.goes goes
  have belongs : next.Belongs (.fetcher id) number :=
    regularAsking.belongs goes (registers?_of_fetch found agenda)
  constructor
  · intro changed
    rcases fetch_asks found agenda stepped changed with ⟨goesOn, asked⟩
    refine ⟨asked, ?_⟩
    have silent : ∀ call ∈ due next.agenda, call.1 ≠ number := by
      rw [goesOn]
      intro call isDue is
      have given := regularAsking.due call (by rw [agenda]; exact isDue)
      exact absurd (is ▸ given) (Nat.not_lt_of_le (Nat.le_succ _))
    have fetching : Fetching id number machine since :=
      fetching_of_leads regular belongs leads silent
    cases fetching with
    | waits silent => exact .inl (told_of_silent silent)
    | @served later earlier serving passed serves once _ =>
        rcases latest_of_serving course goes (passed ▸ leads).split.1 serves with
          ⟨newer, executing, older, current, result, value, held, split, latest, same, after⟩
        rw [held] at once
        have called : told since number <+: [.result (some value)] := told_of_account once
        rcases List.prefix_cons_iff.mp called with none | ⟨_, once, nil⟩
        · exact .inl none
        rw [List.prefix_nil.mp nil] at once
        refine .inr ⟨later, serving, earlier, newer, executing, older, current, result, value,
          passed, serves, once, split, latest, same, fun not => after fun applies => ?_⟩
        rw [Applies, goesOn] at applies
        rcases applies with serves | ⟨_, head⟩
        · refine not (agenda ▸ List.mem_cons_of_mem _ ?_)
          simpa using serves
        · cases head
  · intro same
    rcases fetch_calls found agenda stepped same with ⟨bindings, goesOn⟩
    have stood : next.Stands (.fetcher id) number → asking.Stands (.fetcher id) number := by
      rintro ⟨posted | ⟨is, _⟩⟩
      · rw [Engine.posted, bindings] at posted
        exact .there (.inl posted)
      · contradiction
    have due_rest : due next.agenda.tail ⊆ due asking.agenda := by
      rw [goesOn, agenda]
      cases binding.value? <;> exact List.Subset.refl _
    rw [told_at_once regularAsking goes leads (Nat.le_succ _) belongs stood due_rest, calling?,
      goesOn]
    cases binding.value? with
    | none => rfl
    | some value => simp [Activity.call?]

/-- A binding is asked to count what it holds the records of, and is executed after that. -/
theorem fetches_answered_of_run :
    let first : Engine := .create "s" ⟨1, [⟨"t", "id", false, []⟩]⟩ .standard
    let counting := Descriptor.all.projecting .count
    let setup := course 60 first.idle [.binding (.create "b" "t" .all), .run]
    let asking := start setup.1.engine (.binding (.fetch "b" none (some counting) ⟨"f", [], 0⟩))
    let next := act { asking with agenda := [] }
      (.perform (.binding (.fetch "b" none (some counting) ⟨"f", [], 0⟩)))
    let later := walk 60 (walkOn (walk 60 (next, [])) .run)
    ∃ newer executing between serving since current result value,
      later.2 = since ++ serving :: (newer ++ executing :: between) ∧
        Latest 2 executing newer current result ∧ value.same result ∧
        told later.2 4 = [.result (some value)] := by
  intro first counting setup asking next later
  have finished : setup.1.agenda.isEmpty := by
    subst setup first
    decide +kernel
  have before : first.idle.Leads setup.1 setup.2 := leads_course 60 first.idle _
  have course : first.idle.Leads asking (setup.1 :: setup.2) :=
    before.next (.call (List.isEmpty_iff.mp finished) _)
  have agenda : asking.agenda =
      [.perform (.binding (.fetch "b" none (some counting) ⟨"f", [], 0⟩))] := rfl
  have stepped : asking.step? = some next := rfl
  have leads : next.Leads later.1 later.2 := leads_walk_command 60 next .run
  have facts : asking.engine.nextId = 3 ∧ (told later.2 4).length = 1 ∧
      (asking.engine.binding? "b").any fun found =>
        found.1 == 2 && found.2.isChangedBy none (some (counting.issued asking.engine.nextId)) := by
    subst later next asking setup counting first
    decide +kernel
  rcases facts with ⟨number, once, changes⟩
  rcases (Option.any_eq_true _ _).mp changes with ⟨⟨id, binding⟩, found, changed⟩
  rw [Bool.and_eq_true, beq_iff_eq] at changed
  rcases changed with ⟨rfl, changed⟩
  clear_value later next asking setup
  rcases (fetches_answered course agenda found stepped leads).1 changed with ⟨_, answered⟩
  have serves : Activity.serve 2 ∉ asking.agenda := by
    rw [agenda]
    exact fun member => absurd (List.mem_singleton.mp member) nofun
  rw [number] at answered
  rcases answered with none | ⟨later, serving, earlier, newer, executing, older, current, result,
    value, passed, _, called, _, latest, same, began⟩
  · rw [none] at once
    contradiction
  · rcases began serves with ⟨between, rfl⟩
    exact ⟨newer, executing, between, serving, later, current, result, value, passed, latest, same,
      called⟩

/-- The binding that the next step asks for another table or descriptor by a fetch. -/
def fetchesAnew? (machine : Machine) : Option Nat :=
  match machine.agenda with
  | .perform (.binding (.fetch name table? descriptor? _)) :: _ =>
    (machine.engine.binding? name).bind fun found =>
      let issued? := descriptor?.map (·.issued machine.engine.nextId)
      if found.2.isChangedBy table? issued? then some found.1 else none
  | _ => none

/--
A consumer that asks its binding for another descriptor, while the binding calls its consumers:
the callback is called with the value of the execution that is just being passed on, and no unit
is run in between.
-/
theorem fetch_answered_by_earlier_execution :
    let first : Engine := .create "s" ⟨1, [⟨"t", "id", false, []⟩]⟩ .standard
    ∃ asking before next machine since,
      first.idle.Leads asking before ∧ asking.fetchesAnew? = some 2 ∧ asking.Goes next ∧
        next.Leads machine since ∧ told since (asking.engine.nextId + 1) ≠ [] ∧
        ∀ passed ∈ since, passed.unitRun?.isNone := by
  intro first
  let fetch : Command :=
    .binding (.fetch "b" none (some (Descriptor.all.projecting .count)) ⟨"f", [], 0⟩)
  let setup := course 60 first.idle
    [.binding (.create "b" "t" .all), .binding (.subscribe "b" ⟨"c", [fetch], 1⟩)]
  let asking := walk 4 (walkOn setup .run)
  let later := walk 6 (asking.1, [])
  have course : first.idle.Leads asking.1 asking.2 :=
    leads_walk 4 (leads_walkOn (leads_course 60 first.idle _) .run)
  have leads : asking.1.Leads later.1 later.2 := leads_walk 6 .refl
  have facts : asking.1.fetchesAnew? = some 2 ∧ asking.1.calling?.isNone ∧ later.2.length = 6 ∧
      (told later.2 (asking.1.engine.nextId + 1)).length = 1 ∧
      ∀ passed ∈ later.2, passed.unitRun?.isNone := by
    subst later asking setup fetch first
    decide +kernel
  clear_value later asking setup
  rcases facts with ⟨anew, callsNot, several, once, runsNone⟩
  rcases leads.onwards with ⟨none, _⟩ | ⟨next, since, goes, leads, split⟩
  · rw [none] at several
    contradiction
  · refine ⟨asking.1, asking.2, next, later.1, since, course, anew, goes, leads, ?_, ?_⟩
    · intro none
      rw [split, told, calls, gather_append, gather_cons, gather_nil,
        Option.isNone_iff_eq_none.mp callsNot, Option.toList_none, List.append_nil,
        List.nil_append, ← calls, ← told, none] at once
      contradiction
    · exact fun passed member => runsNone passed (split ▸ List.mem_append_left _ member)

end Machine

end LiveTable
