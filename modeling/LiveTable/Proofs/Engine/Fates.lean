import LiveTable.Proofs.Engine.Courses

/-!
# What becomes of callbacks

In every machine that a new engine comes to, numbers were given out in order, and calls that are
due, but not next, are those of a task that is under way.

A callback belongs to the place where it was registered: it stands there or nowhere.  Once it
stands nowhere and is not about to be called, it is gone, and it is never called again.
-/

set_option autoImplicit false

namespace LiveTable

/-- Whether an activity runs the tasks of the queue. -/
def Activity.isDrain : Activity → Bool
  | .drain _ _ => true
  | _ => false

/-- Whether an activity calls a callback or passes a result on. -/
def Activity.pends (activity : Activity) : Bool :=
  activity.call?.isSome || activity.isApplying

namespace Machine

/-! ## Calls that are due -/

/-- Behind every call that is due, and everything that passes a result on, tasks are run. -/
def Backed : List Activity → Prop
  | [] => True
  | activity :: rest => (activity.pends → rest.any Activity.isDrain) ∧ Backed rest

section Backing

variable {added rest : List Activity}

theorem Backed.append_of_ordinary {MayBear : Nat → Prop}
    (ordinary : ∀ activity ∈ added, activity.Ordinary MayBear) (backed : Backed rest) :
    Backed (added ++ rest) := by
  induction added with
  | nil => exact backed
  | cons activity others ih =>
      rcases List.forall_mem_cons.mp ordinary with ⟨first, ordinary⟩
      refine ⟨fun pends => ?_, ih ordinary⟩
      cases activity <;> contradiction

theorem Backed.append_of_drain (drains : rest.any Activity.isDrain) (backed : Backed rest) :
    Backed (added ++ rest) := by
  induction added with
  | nil => exact backed
  | cons activity others ih =>
      refine ⟨fun _ => ?_, ih⟩
      exact List.any_append.trans (by rw [drains, Bool.or_true])

/-- Where no tasks are run, no call is due and no result is passed on. -/
theorem Backed.pends_eq_false (backed : Backed rest)
    (drainsNot : rest.any Activity.isDrain = false) :
    ∀ activity ∈ rest, activity.pends = false := by
  induction rest with
  | nil => exact List.forall_mem_nil _
  | cons activity others ih =>
      rw [List.any_cons, Bool.or_eq_false_iff] at drainsNot
      refine List.forall_mem_cons.mpr ⟨?_, ih backed.2 drainsNot.2⟩
      refine Bool.eq_false_iff.mpr fun pends => ?_
      exact Bool.eq_false_iff.mp drainsNot.2 (backed.1 pends)

end Backing

/-- Behind what is due, tasks are run, and behind what is next unless it is only a call. -/
structure Covered (agenda : List Activity) : Prop where
  backed : Backed agenda.tail
  applies (activity : Activity) : agenda.head? = some activity → activity.isApplying →
    agenda.tail.any Activity.isDrain

theorem Covered.of_backed {agenda : List Activity} (backed : Backed agenda) : Covered agenda := by
  cases agenda with
  | nil => exact ⟨trivial, nofun⟩
  | cons activity rest =>
      refine ⟨backed.2, ?_⟩
      rintro _ ⟨⟩ applies
      exact backed.1 (by rw [Activity.pends, applies, Bool.or_true])

/-! ## Machines in order -/

/-- What holds of every machine that a new engine comes to. -/
structure Regular (machine : Machine) : Prop where
  /-- Objects have numbers of their own. -/
  apart (id : Nat) : machine.engine.Apart id
  /-- The numbers of callbacks were given out. -/
  stands {post : Post} {number : Nat} : machine.Stands post number → number < machine.engine.nextId
  due (call : Nat × Notice) : call ∈ due machine.agenda → call.1 < machine.engine.nextId
  /-- A callback stands in one place only. -/
  alone {post other : Post} {number : Nat} :
    machine.Stands post number → machine.Stands other number → post = other
  /-- Callbacks stand in the order in which they were registered. -/
  ascending (post : Post) : (machine.engine.posted post).Pairwise (· < ·)
  /-- A result is given to its object at once. -/
  results : ∀ activity ∈ machine.agenda.tail, activity.renews = false
  covered : Covered machine.agenda

variable {first machine after : Machine} {past : List Machine} {post : Post} {number : Nat}

/-- In a new engine nobody stands anywhere. -/
theorem stands_idle {name : String} {schema : StoreSchema} {config : Config} :
    ¬ (Engine.create name schema config).idle.Stands post number := by
  intro stands
  cases stands with
  | there stands =>
      rcases stands with posted | ⟨_, elsewhere⟩
      · cases post <;> contradiction
      · cases elsewhere with
        | listens listens => contradiction
        | watches watches =>
            rcases watches with ⟨table, entry, listed, _⟩
            contradiction
        | watched held => contradiction
        | queued waits => contradiction
  | bears due => contradiction
  | served due => contradiction

theorem regular_idle (name : String) (schema : StoreSchema) (config : Config) :
    (Engine.create name schema config).idle.Regular where
  apart id := ⟨nofun, nofun⟩
  stands stands := absurd stands stands_idle
  due call isDue := by contradiction
  alone stands := absurd stands stands_idle
  ascending post := by cases post <;> exact .nil
  results := List.forall_mem_nil _
  covered := ⟨trivial, nofun⟩

/-! ### Every turn -/

theorem registers?_given (registers : machine.registers? = some (post, number)) :
    machine.engine.nextId ≤ number := by
  rcases of_registers? registers with ⟨command, rest, _, given⟩
  exact (Machine.registers?_bounds given).1

theorem registersNot_of_given (given : number < machine.engine.nextId) :
    machine.registers? ≠ some (post, number) :=
  fun registers => absurd given (Nat.not_lt_of_le (registers?_given registers))

/-- Whoever may be called by an ordinary turn has a number that was given out by then. -/
theorem Regular.registers_bound (regular : machine.Regular) (goes : machine.Goes after)
    (stands : machine.Stands post number ∨ machine.registers? = some (post, number)) :
    number < after.engine.nextId := by
  rcases stands with stands | registers
  · exact Nat.lt_of_lt_of_le (regular.stands stands) (goes.turn regular.apart).retains.nextId
  · exact (goes.registers?_bounds registers).2

theorem Regular.due_bound (regular : machine.Regular) (goes : machine.Goes after)
    {call : Nat × Notice} (isDue : call ∈ Machine.due after.agenda) :
    call.1 < after.engine.nextId := by
  rcases (goes.turn regular.apart).due isDue with before | ⟨_, stands⟩ | ⟨_, registers⟩
  · exact Nat.lt_of_lt_of_le (regular.due call (mem_due_of_tail before))
      (goes.turn regular.apart).retains.nextId
  · exact regular.registers_bound goes (.inl stands)
  · exact regular.registers_bound goes (.inr registers)

theorem Regular.ascending_after (regular : machine.Regular) (turns : machine.TurnsTo after)
    (post : Post) : (after.engine.posted post).Pairwise (· < ·) := by
  have below (number : Nat) (stands : number ∈ machine.engine.posted post) :
      number < machine.engine.nextId :=
    regular.stands (.there (.inl stands))
  have before := regular.ascending post
  cases post with
  | consumer id => exact (turns.retains.bindings id).consumers.ascending before below
  | fetcher id => exact (turns.retains.bindings id).fetchers.ascending before below
  | follower id => exact (turns.retains.caches id).followers.ascending before below
  | requester id => exact (turns.retains.caches id).requesters.ascending before below
  | elsewhere => exact .nil

theorem Regular.alone_after (regular : machine.Regular) (turns : machine.TurnsTo after)
    {other : Post} (here : after.Stands post number) (there : after.Stands other number) :
    post = other := by
  rcases turns.stands here with stood | registered
  · have given := regular.stands stood
    exact regular.alone stood
      ((turns.stands there).resolve_right (registersNot_of_given given))
  · rcases turns.stands there with stood | registeredToo
    · exact absurd registered (registersNot_of_given (regular.stands stood))
    · exact (Prod.mk.inj (Option.some.inj (registered.symm.trans registeredToo))).1

theorem renews_of_ordinary {MayBear : Nat → Prop} {activity : Activity}
    (ordinary : activity.Ordinary MayBear) : activity.renews = false := by
  cases activity <;> first | rfl | exact ordinary.elim

theorem renews_of_follows {activity : Activity} (follows : activity.Follows machine) :
    activity.renews = false := by
  cases activity <;> first | rfl | exact follows.elim

/-- Only a success puts a result on the agenda. -/
theorem Turn.results (turn : machine.Turn after)
    (before : ∀ activity ∈ machine.agenda.tail, activity.renews = false) :
    (machine.success? = none ∧ ∀ activity ∈ after.agenda, activity.renews = false) ∨
      ∃ success, machine.SucceedsTo success after := by
  have added {activities : List Activity}
      (agenda : after.agenda = activities ++ machine.agenda.tail)
      (none : ∀ activity ∈ activities, activity.renews = false) :
      ∀ activity ∈ after.agenda, activity.renews = false := by
    rw [agenda]
    exact List.forall_mem_append.mpr ⟨none, before⟩
  have ofOrdinary {activities : List Activity}
      (ordinary : ∀ activity ∈ activities, activity.Ordinary machine.engine.Elsewhere) :
      ∀ activity ∈ activities, activity.renews = false :=
    fun activity member => renews_of_ordinary (ordinary activity member)
  cases turn with
  | ordinary agenda orderly noSuccess _ =>
      refine .inl ⟨noSuccess, added agenda ?_⟩
      cases orderly with
      | quiet ordinary => exact ofOrdinary ordinary
      | calls _ ordinary => exact List.forall_mem_cons.mpr ⟨rfl, ofOrdinary ordinary⟩
  | succeeded succeeds => exact .inr ⟨_, succeeds⟩
  | @applied activity rest agenda applies does =>
      have noSuccess : machine.success? = none := by
        refine success?_eq_none fun ran others is => ?_
        rcases List.cons.inj (agenda.symm.trans is) with ⟨rfl, _⟩
        contradiction
      refine .inl ⟨noSuccess, ?_⟩
      rcases does ▸ applies_passesOn agenda applies with
        ⟨goesOn, _, follows⟩ | ⟨goesOn, _, follows⟩
      · exact added (by rw [goesOn, agenda]; rfl) fun activity member =>
          renews_of_follows (follows activity member)
      · refine added (by rw [goesOn, agenda]; rfl) (List.forall_mem_append.mpr ⟨?_, ?_⟩)
        · exact List.forall_mem_map.mpr fun _ _ => rfl
        · exact fun activity member => renews_of_follows (follows activity member)

/-- A result that a success puts on the agenda comes first. -/
theorem Turn.results_tail (turn : machine.Turn after)
    (before : ∀ activity ∈ machine.agenda.tail, activity.renews = false) :
    ∀ activity ∈ after.agenda.tail, activity.renews = false := by
  rcases turn.results before with ⟨_, none⟩ | ⟨success, succeeds⟩
  · exact fun activity member => none activity (List.mem_of_mem_tail member)
  · rcases succeeds.agenda with ⟨ran, rest, agenda, goesOn⟩
    rw [goesOn]
    rw [agenda] at before
    exact List.forall_mem_cons.mpr ⟨rfl, List.forall_mem_cons.mpr ⟨rfl, before⟩⟩

theorem Turn.covered (turn : machine.Turn after) (before : Covered machine.agenda) :
    Covered after.agenda := by
  cases turn with
  | ordinary agenda orderly _ _ =>
      rw [agenda]
      cases orderly with
      | quiet ordinary => exact .of_backed (before.backed.append_of_ordinary ordinary)
      | calls _ ordinary =>
          refine ⟨before.backed.append_of_ordinary ordinary, ?_⟩
          rintro _ ⟨⟩ applies
          contradiction
  | succeeded succeeds =>
      rcases succeeds.agenda with ⟨ran, rest, agenda, goesOn⟩
      rw [goesOn]
      refine .of_backed ⟨fun _ => rfl, nofun, nofun, ?_⟩
      have backed := before.backed
      rwa [agenda] at backed
  | @applied activity rest agenda applies does =>
      have drains : rest.any Activity.isDrain := by
        have tail := before.applies activity (by rw [agenda]; rfl) applies
        rwa [agenda] at tail
      have backed : Backed rest := by
        have tail := before.backed
        rwa [agenda] at tail
      rcases does ▸ applies_passesOn agenda applies with ⟨goesOn, _, _⟩ | ⟨goesOn, _, _⟩ <;>
        · rw [goesOn]
          exact .of_backed (backed.append_of_drain drains)

theorem Regular.goes (regular : machine.Regular) (goes : machine.Goes after) : after.Regular :=
  let turns := goes.turn regular.apart
  { apart := fun id => turns.retains.apart (regular.apart id)
    stands := fun stands => regular.registers_bound goes (turns.stands stands)
    due := fun _ => regular.due_bound goes
    alone := regular.alone_after turns
    ascending := regular.ascending_after turns
    results := turns.turn.results_tail regular.results
    covered := turns.turn.covered regular.covered }

theorem Regular.leads (regular : first.Regular) (leads : first.Leads machine past) :
    machine.Regular := by
  induction leads with
  | refl => exact regular
  | next _ goes ih => exact ih.goes goes

/-! ## Belonging and going -/

/-- The callback of a number stands at one post at most. -/
structure Belongs (machine : Machine) (post : Post) (number : Nat) : Prop where
  given : number < machine.engine.nextId
  place (other : Post) : machine.Stands other number → other = post

/-- A callback belongs to the place where it stands. -/
theorem Regular.belongs_of_stands (regular : machine.Regular)
    (stands : machine.Stands post number) : machine.Belongs post number :=
  ⟨regular.stands stands, fun _ other => regular.alone other stands⟩

/-- A callback belongs to the place where it is registered. -/
theorem Regular.belongs (regular : machine.Regular) (goes : machine.Goes after)
    (registers : machine.registers? = some (post, number)) : after.Belongs post number where
  given := regular.registers_bound goes (.inr registers)
  place other stands := by
    rcases (goes.turn regular.apart).stands stands with stood | registered
    · exact absurd (regular.stands stood) (Nat.not_lt_of_le (registers?_given registers))
    · exact (Prod.mk.inj (Option.some.inj (registered.symm.trans registers))).1

theorem Belongs.goes (belongs : machine.Belongs post number) (turns : machine.TurnsTo after) :
    after.Belongs post number where
  given := Nat.lt_of_lt_of_le belongs.given turns.retains.nextId
  place other stands := by
    rcases turns.stands stands with stood | registered
    · exact belongs.place other stood
    · exact absurd registered (registersNot_of_given belongs.given)

theorem Belongs.leads (belongs : first.Belongs post number) (regular : first.Regular)
    (leads : first.Leads machine past) : machine.Belongs post number := by
  induction leads with
  | refl => exact belongs
  | next leads goes ih => exact ih.goes (goes.turn (regular.leads leads).apart)

/-- A callback that has a number stands only where it stood before. -/
theorem Belongs.stood (belongs : machine.Belongs post number) (turns : machine.TurnsTo after)
    {other : Post} (stands : after.Stands other number) : machine.Stands other number :=
  (turns.stands stands).resolve_right (registersNot_of_given belongs.given)

/-- A callback that belongs to a binding or a cache is called only with what these come to. -/
theorem Belongs.mayNot (belongs : machine.Belongs post number) (named : post ≠ .elsewhere) :
    ¬ machine.MayCall number := by
  intro mayCall
  rcases mayCall.stands with stands | ⟨post, registers⟩
  · exact named (belongs.place _ stands).symm
  · exact registersNot_of_given belongs.given registers

/-- The callback of a number stands nowhere, and it is not about to be called. -/
structure Gone (machine : Machine) (number : Nat) : Prop where
  given : number < machine.engine.nextId
  nowhere (post : Post) : ¬ machine.Stands post number
  silent (call : Nat × Notice) : call ∈ Machine.due machine.agenda → call.1 ≠ number

/-- A callback that stands nowhere and is not to be called after this step is gone then. -/
theorem gone_of_turn (turns : machine.TurnsTo after) (given : number < machine.engine.nextId)
    (nowhere : ∀ post, ¬ machine.Stands post number)
    (silent : ∀ call ∈ Machine.due machine.agenda.tail, call.1 ≠ number) : after.Gone number where
  given := Nat.lt_of_lt_of_le given turns.retains.nextId
  nowhere post stands := by
    rcases turns.stands stands with stood | registered
    · exact nowhere post stood
    · exact registersNot_of_given given registered
  silent call isDue is := by
    subst is
    rcases turns.due isDue with before | ⟨post, stood⟩ | ⟨post, registered⟩
    · exact silent call before rfl
    · exact nowhere post stood
    · exact registersNot_of_given given registered

theorem Gone.goes (gone : machine.Gone number) (turns : machine.TurnsTo after) :
    after.Gone number :=
  gone_of_turn turns gone.given gone.nowhere fun call isDue =>
    gone.silent call (mem_due_of_tail isDue)

/-- A callback that is gone is never called again. -/
theorem Gone.leads (gone : first.Gone number) (regular : first.Regular)
    (leads : first.Leads machine past) : machine.Gone number ∧ told past number = [] := by
  induction leads with
  | refl => exact ⟨gone, rfl⟩
  | @next machine after past leads goes ih =>
      rcases ih with ⟨gone, silent⟩
      refine ⟨gone.goes (goes.turn (regular.leads leads).apart), ?_⟩
      rw [told, calls, gather_cons, ← calls, List.filter_append, List.map_append, ← told, silent,
        List.nil_append, List.map_eq_nil_iff, List.filter_eq_nil_iff]
      intro call next same
      refine gone.silent call ?_ (beq_iff_eq.mp same)
      rw [due_agenda]
      exact List.mem_append_left _ next

/-- A callback that is only about to be called is called at once and then never again. -/
theorem told_of_call (regular : first.Regular) (leads : first.Leads machine past)
    (given : number < first.engine.nextId) (nowhere : ∀ post, ¬ first.Stands post number)
    (silent : ∀ call ∈ Machine.due first.agenda.tail, call.1 ≠ number) :
    told past number =
      if past = [] then []
      else (first.calling?.toList.filter (·.1 == number)).map Prod.snd := by
  rcases leads.onwards with ⟨rfl, _⟩ | ⟨second, rest, goes, later, rfl⟩
  · rfl
  · have gone : second.Gone number :=
      gone_of_turn (goes.turn regular.apart) given nowhere silent
    rw [if_neg (List.append_ne_nil_of_right_ne_nil _ (List.cons_ne_nil _ _)), told, calls,
      gather_append, gather_cons, gather_nil, List.nil_append, List.filter_append, List.map_append,
      ← calls, ← told, (gone.leads (regular.goes goes) later).2, List.append_nil]

/-- A callback that is given to a step which calls it is called at once and then never again. -/
theorem told_at_once (regular : machine.Regular) (goes : machine.Goes first)
    (leads : first.Leads after past) (fresh : machine.engine.nextId ≤ number)
    (belongs : first.Belongs post number)
    (stood : first.Stands post number → machine.Stands post number)
    (rest : Machine.due first.agenda.tail ⊆ Machine.due machine.agenda) :
    told past number =
      if past = [] then []
      else (first.calling?.toList.filter (·.1 == number)).map Prod.snd := by
  have nowhere (other : Post) : ¬ first.Stands other number := by
    intro stands
    rcases belongs.place other stands with rfl
    exact absurd (regular.stands (stood stands)) (Nat.not_lt_of_le fresh)
  have silent : ∀ call ∈ Machine.due first.agenda.tail, call.1 ≠ number := by
    intro call isDue is
    exact absurd (is ▸ regular.due call (rest isDue)) (Nat.not_lt_of_le fresh)
  exact told_of_call (regular.goes goes) leads belongs.given nowhere silent

/-! ## What a callback is called with -/

/-- The calls of a callback that were made or are due. -/
def account (number : Nat) (machine : Machine) (since : List Machine) : List (Nat × Notice) :=
  (calls since ++ due machine.agenda).filter (·.1 == number)

section Accounts

variable {since : List Machine}

theorem account_eq (number : Nat) (machine : Machine) (since : List Machine) :
    account number machine since =
      (calls since ++ machine.calling?.toList).filter (·.1 == number) ++
        (due machine.agenda.tail).filter (·.1 == number) := by
  rw [account, due_agenda, ← List.append_assoc, List.filter_append]

/-- The callback of a binding or a cache is called only where it is given something. -/
theorem Belongs.account (belongs : machine.Belongs post number) (named : post ≠ .elsewhere)
    (turn : machine.Turn after) (since : List Machine) :
    account number after (machine :: since) =
      (calls since ++ machine.calling?.toList).filter (·.1 == number) ++
        machine.gives.filter (·.1 == number) ++
          (due machine.agenda.tail).filter (·.1 == number) :=
  turn.account since fun _ same => beq_iff_eq.mp same ▸ belongs.mayNot named

/-- As long as it is given nothing, its account stays the same. -/
theorem Belongs.account_of_gives (belongs : machine.Belongs post number) (named : post ≠ .elsewhere)
    (turn : machine.Turn after) (nothing : machine.gives.filter (·.1 == number) = []) :
    Machine.account number after (machine :: since) = Machine.account number machine since := by
  rw [belongs.account named turn, nothing, List.append_nil, ← account_eq]

/-- Who stands nowhere is given nothing. -/
theorem gives_of_nowhere (nowhere : ∀ post, ¬ machine.Stands post number) :
    machine.gives.filter (·.1 == number) = [] := by
  refine List.filter_eq_nil_iff.mpr fun call given same => ?_
  rcases givesTo_of_mem given with ⟨post, gives⟩
  exact nowhere post (beq_iff_eq.mp same ▸ gives.stands)

/-- A callback was called with what its account comes to, but for the calls that are due. -/
theorem told_of_account {notices : List Notice}
    (accounts : account number machine since = notices.map (number, ·)) :
    told since number <+: notices := by
  refine ⟨((due machine.agenda).filter (·.1 == number)).map Prod.snd, ?_⟩
  rw [account] at accounts
  rw [told, ← List.map_append, ← List.filter_append, accounts, List.map_map]
  exact List.map_id notices

theorem told_of_silent (silent : account number machine since = []) : told since number = [] :=
  List.prefix_nil.mp (told_of_account (silent.trans List.map_nil.symm))

end Accounts

end Machine

end LiveTable
