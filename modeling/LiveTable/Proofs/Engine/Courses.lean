import LiveTable.Proofs.Engine.Convergence
import LiveTable.Proofs.Engine.Turns

/-!
# Courses

A machine takes one step after another, and is asked the next command once it has finished.
`Machine.Leads` says that it comes to be another machine in this way, and which machines it was
on the way.  What a callback was called with, and what executions came to, is read off these.

Every callback has a number of its own and one place where it may stand.  So a callback that
stands nowhere any more, and that is not about to be called, is never called again.
-/

set_option autoImplicit false

namespace LiveTable

/-! ## Going on -/

namespace Machine

/-- A machine takes a step, or it has finished and is asked the next command. -/
inductive Goes (machine : Machine) : Machine → Prop where
  | step {after : Machine} (stepped : machine.step? = some after) : Goes machine after
  | call (finished : machine.agenda = []) (command : Command) :
      Goes machine (.start machine.engine command)

/-- A machine comes to be another; the list has the machines before that, the latest first. -/
inductive Leads (first : Machine) : Machine → List Machine → Prop where
  | refl : Leads first first []
  | next {machine after : Machine} {past : List Machine} (leads : Leads first machine past)
      (goes : machine.Goes after) : Leads first after (machine :: past)

variable {first machine after : Machine} {past since : List Machine}

theorem Leads.append (early : first.Leads machine past) (late : machine.Leads after since) :
    first.Leads after (since ++ past) := by
  induction late with
  | refl => exact early
  | next _ goes ih => exact .next ih goes

/-- What a machine goes on to first. -/
theorem Leads.onwards (leads : first.Leads machine past) :
    past = [] ∧ machine = first ∨
      ∃ second rest, first.Goes second ∧ second.Leads machine rest ∧ past = rest ++ [first] := by
  induction leads with
  | refl => exact .inl ⟨rfl, rfl⟩
  | @next machine after past _ goes ih =>
      right
      rcases ih with ⟨rfl, rfl⟩ | ⟨second, rest, starts, leads, rfl⟩
      · exact ⟨after, [], goes, .refl, rfl⟩
      · exact ⟨second, machine :: rest, starts, leads.next goes, rfl⟩

/-- A machine on the way: how it came about, and what it went on to. -/
theorem Leads.split {passed : Machine} {newer older : List Machine}
    (leads : first.Leads machine (newer ++ passed :: older)) :
    first.Leads passed older ∧ ∃ after, passed.Goes after ∧ after.Leads machine newer := by
  induction newer generalizing machine with
  | nil =>
      cases leads with
      | next leads goes => exact ⟨leads, machine, goes, .refl⟩
  | cons latest newer ih =>
      cases leads with
      | next leads goes =>
          rcases ih leads with ⟨early, after, begins, late⟩
          exact ⟨early, after, begins, late.next goes⟩

/-- A machine after a number of steps, or at its end, with the machines until then. -/
def walk : Nat → Machine × List Machine → Machine × List Machine
  | 0, state => state
  | limit + 1, state =>
    match state.1.step? with
    | none => state
    | some next => walk limit (next, state.1 :: state.2)

/-- A machine that has finished is asked the next command. -/
def walkOn (state : Machine × List Machine) (command : Command) : Machine × List Machine :=
  if state.1.agenda.isEmpty then (.start state.1.engine command, state.1 :: state.2) else state

/-- A machine that carries out commands one after another, each within a number of steps. -/
def course (limit : Nat) (first : Machine) (commands : List Command) : Machine × List Machine :=
  commands.foldl (fun state command => walk limit (walkOn state command)) (first, [])

theorem leads_walk (limit : Nat) {state : Machine × List Machine}
    (leads : first.Leads state.1 state.2) :
    first.Leads (walk limit state).1 (walk limit state).2 := by
  induction limit generalizing state with
  | zero => exact leads
  | succ limit ih =>
      rw [walk]
      split
      · exact leads
      · next next stepped => exact ih (leads.next (.step stepped))

theorem leads_walkOn {state : Machine × List Machine} (leads : first.Leads state.1 state.2)
    (command : Command) : first.Leads (walkOn state command).1 (walkOn state command).2 := by
  rw [walkOn]
  split
  · next finished => exact leads.next (.call (List.isEmpty_iff.mp finished) command)
  · exact leads

/-- A machine finishes what it does, and carries out one command then. -/
theorem leads_walk_command (limit : Nat) (first : Machine) (command : Command) :
    let last := walk limit (walkOn (walk limit (first, [])) command)
    first.Leads last.1 last.2 :=
  leads_walk limit (leads_walkOn (leads_walk limit .refl) command)

theorem leads_course (limit : Nat) (first : Machine) (commands : List Command) :
    first.Leads (course limit first commands).1 (course limit first commands).2 := by
  have onwards (state : Machine × List Machine) (leads : first.Leads state.1 state.2) :
      let last := commands.foldl (fun state command => walk limit (walkOn state command)) state
      first.Leads last.1 last.2 := by
    induction commands generalizing state with
    | nil => exact leads
    | cons command rest ih => exact ih _ (leads_walk limit (leads_walkOn leads command))
  exact onwards (first, []) .refl

/-- However a machine goes on, that is a turn. -/
theorem Goes.turn (goes : machine.Goes after) (fresh : ∀ id, machine.engine.Apart id) :
    machine.TurnsTo after := by
  cases goes with
  | step stepped => exact turn_step fresh stepped
  | call finished command =>
      have asked : (start machine.engine command).agenda =
          [.perform command] ++ machine.agenda.tail := by
        rw [finished]
        rfl
      refine ⟨Engine.retains_refl _, .ordinary asked (.single trivial) ?_ ?_⟩
      · simp only [success?, unitRun?, finished, Option.bind_none]
      · simp only [finished, List.head?_nil, reduceCtorEq, false_implies, implies_true]

/-- A machine that has not finished goes on by a step. -/
theorem Goes.stepped (goes : machine.Goes after) (busy : machine.agenda ≠ []) :
    machine.step? = some after := by
  cases goes with
  | step stepped => exact stepped
  | call finished => exact absurd finished busy

/-- A machine goes on by what is first on its agenda. -/
theorem Goes.act_of_agenda {activity : Activity} {rest : List Activity}
    (goes : machine.Goes after) (agenda : machine.agenda = activity :: rest) :
    after = act { machine with agenda := rest } activity :=
  act_of_step? agenda (goes.stepped (agenda ▸ List.cons_ne_nil activity rest))

theorem of_registers? {post : Post} {number : Nat}
    (registers : machine.registers? = some (post, number)) :
    ∃ command rest, machine.agenda = .perform command :: rest ∧
      command.registers? machine.engine = some (post, number) := by
  rw [registers?] at registers
  split at registers
  · next command rest agenda => exact ⟨command, rest, agenda, registers⟩
  · contradiction

/-- A callback that is registered gets a number that was not given out before. -/
theorem Goes.registers?_bounds (goes : machine.Goes after) {post : Post} {number : Nat}
    (registers : machine.registers? = some (post, number)) :
    machine.engine.nextId ≤ number ∧ number < after.engine.nextId := by
  rcases of_registers? registers with ⟨command, rest, agenda, given⟩
  rw [goes.act_of_agenda agenda]
  exact @Machine.registers?_bounds { machine with agenda := rest } post number _ given

/-! ## Units that are run -/

/-- A unit that is run is what its job comes to then. -/
theorem unit?_of_unitRun {run : UnitRun} (runs : machine.unitRun? = some run) :
    machine.engine.unit? run.executor run.job = some run.unit := by
  rw [unitRun?] at runs
  split at runs
  · next executor job clock waiting _ _ =>
      rcases Option.map_eq_some_iff.mp runs with ⟨unit, prepared, rfl⟩
      cases job <;> exact prepared
  · contradiction

/-- The unit of a success was run for its owner. -/
theorem unitRun_of_success {success : Success} (succeeds : machine.success? = some success) :
    ∃ run, machine.unitRun? = some run ∧ run.unit = success.unit ∧
      run.outcome = .ok (.result success.result) ∧
      (success.owner = .binding run.executor ∧ run.job = .binding ∨
        success.owner = .cache run.executor ∧ run.job = .cache) := by
  rcases Option.bind_eq_some_iff.mp succeeds with ⟨run, runs, found⟩
  refine ⟨run, runs, ?_⟩
  rw [UnitRun.success?] at found
  split at found
  · next job outcome =>
      rcases Option.some.inj found with rfl
      exact ⟨rfl, outcome, .inl ⟨rfl, job⟩⟩
  · next job outcome =>
      rcases Option.some.inj found with rfl
      exact ⟨rfl, outcome, .inr ⟨rfl, job⟩⟩
  · contradiction

/-- A unit that succeeds for a binding was made of the binding as it was then. -/
theorem binding_of_success {success : Success} (succeeds : machine.success? = some success)
    {id : Nat} (owner : success.owner = Owner.binding id) :
    ∃ binding, machine.engine.bindings.get? id = some binding ∧
      binding.unit? = some success.unit := by
  rcases unitRun_of_success succeeds with ⟨run, runs, unit, _, ⟨is, job⟩ | ⟨is, _⟩⟩
  · have prepared := unit?_of_unitRun runs
    rw [job, unit] at prepared
    rcases Owner.binding.inj (owner.symm.trans is) with rfl
    exact Option.bind_eq_some_iff.mp prepared
  · exact absurd (owner.symm.trans is) nofun

/-- A unit that succeeds for a cache was made of the cache as it was then. -/
theorem cache_of_success {success : Success} (succeeds : machine.success? = some success)
    {id : Nat} (owner : success.owner = Owner.cache id) :
    ∃ cache, machine.engine.caches.get? id = some cache ∧ cache.unit? = some success.unit := by
  rcases unitRun_of_success succeeds with ⟨run, runs, unit, _, ⟨is, _⟩ | ⟨is, job⟩⟩
  · exact absurd (owner.symm.trans is) nofun
  · have prepared := unit?_of_unitRun runs
    rw [job, unit] at prepared
    rcases Owner.cache.inj (owner.symm.trans is) with rfl
    exact Option.bind_eq_some_iff.mp prepared

/-! ## What happened on the way -/

/-- What there was to gather from machines, in the order of their steps. -/
def gather {Found : Type} (find? : Machine → Option Found) (past : List Machine) : List Found :=
  past.reverse.filterMap find?

section Gathering

variable {Found : Type} (find? : Machine → Option Found)

@[simp]
theorem gather_nil : gather find? [] = [] :=
  rfl

@[simp]
theorem gather_cons (machine : Machine) (past : List Machine) :
    gather find? (machine :: past) = gather find? past ++ (find? machine).toList := by
  rw [gather, List.reverse_cons, List.filterMap_append, gather]
  congr 1

@[simp]
theorem gather_append (since past : List Machine) :
    gather find? (since ++ past) = gather find? past ++ gather find? since := by
  rw [gather, List.reverse_append, List.filterMap_append, gather, gather]

end Gathering

end Machine

/-- The number of the callback that an activity calls, with what it is called with. -/
def Activity.call? : Activity → Option (Nat × Notice)
  | .call callback notice => some (callback.id, notice)
  | _ => none

namespace Machine

/-- The calls among activities. -/
def due (activities : List Activity) : List (Nat × Notice) :=
  activities.filterMap Activity.call?

/-- The call that the next step makes. -/
def calling? (machine : Machine) : Option (Nat × Notice) :=
  machine.agenda.head?.bind Activity.call?

/-- The calls that were made. -/
def calls (past : List Machine) : List (Nat × Notice) :=
  gather calling? past

/-- What the callback of a number was called with. -/
def told (past : List Machine) (number : Nat) : List Notice :=
  ((calls past).filter (·.1 == number)).map Prod.snd

/-- Whether the next step runs the next task of the queue. -/
def drains (machine : Machine) : Bool :=
  match machine.agenda with
  | .drain _ none :: _ => true
  | _ => false

variable {machine after : Machine}

theorem due_agenda (machine : Machine) :
    due machine.agenda = machine.calling?.toList ++ due machine.agenda.tail := by
  rw [calling?]
  cases machine.agenda with
  | nil => rfl
  | cons head rest =>
      rw [due, List.filterMap_cons, List.head?_cons, Option.bind_some, List.tail_cons]
      cases head.call? <;> rfl

/-! ## Where callbacks stand -/

/-- The callback of a number stands at a post, or is on its way to be called from there. -/
inductive Stands (machine : Machine) : Post → Nat → Prop where
  | there {post : Post} {number : Nat} (stands : machine.engine.Stands post number) :
      Stands machine post number
  | bears {number : Nat} {activity : Activity} (due : activity ∈ machine.agenda)
      (bears : activity.bears number) : Stands machine .elsewhere number
  | served {id : Nat} {item : Value} {callback : Callback}
      (due : .serveItem id item callback ∈ machine.agenda) :
      Stands machine (.requester id) callback.id

/-- Whoever stands with those who asked a cache waits for it, or he is being answered. -/
theorem Stands.of_requester {id number : Nat} (stands : machine.Stands (.requester id) number) :
    number ∈ machine.engine.posted (.requester id) ∨
      ∃ item callback, .serveItem id item callback ∈ machine.agenda ∧ callback.id = number := by
  generalize is : Post.requester id = post at stands
  cases stands with
  | there stands =>
      subst is
      exact .inl (stands.resolve_right fun elsewhere => absurd elsewhere.1 nofun)
  | bears => contradiction
  | served due =>
      rcases Post.requester.inj is with rfl
      exact .inr ⟨_, _, due, rfl⟩

theorem MayCall.stands {number : Nat} (mayCall : machine.MayCall number) :
    machine.Stands .elsewhere number ∨ ∃ post, machine.registers? = some (post, number) := by
  rcases mayCall with elsewhere | ⟨activity, head, bears⟩ | registers
  · exact .inl (.there (.inr ⟨rfl, elsewhere⟩))
  · exact .inl (.bears (List.mem_of_mem_head? head) bears)
  · exact .inr registers

end Machine

/-- Whether an activity gives a binding or a cache its result. -/
def Activity.renews : Activity → Bool
  | .refresh _ _ | .refill _ _ => true
  | _ => false

/-- A success is told to its owner. -/
theorem Success.renews_told (success : Success) : success.told.renews := by
  rcases success with ⟨owner, unit, result⟩
  cases owner <;> rfl

namespace Engine

/-- The records that the cache of a number holds. -/
def itemsOf (engine : Engine) (id : Nat) : Items :=
  (engine.caches.get? id).elim .empty ItemCache.items

end Engine

/-! ## What comes in front of the agenda -/

namespace Machine

/-- The calls by which the next step passes a result on, if it does. -/
def gives (machine : Machine) : List (Nat × Notice) :=
  let engine := machine.engine
  match machine.agenda.head? with
  | some (.refresh id result) =>
    if (engine.valueOf? id).any (·.same result) then []
    else (engine.posted (.consumer id)).map (·, .result (some result))
  | some (.serve id) => (engine.posted (.fetcher id)).map (·, .result (engine.valueOf? id))
  | some (.serveItem id item callback) =>
    if (engine.caches.get? id).isSome then [(callback.id, .item ((engine.itemsOf id).find? item))]
    else []
  | some (.spread id) => (engine.posted (.follower id)).map (·, .items (engine.itemsOf id))
  | _ => []

end Machine

/-- What comes behind the calls by which a result is passed on. -/
def Activity.Follows (machine : Machine) : Activity → Prop
  | .serve id => ∃ result, machine.agenda.head? = some (.refresh id result)
  | .serveItem id item callback => (∃ records, machine.agenda.head? = some (.refill id records)) ∧
      (item, callback.id) ∈ ItemCache.requestsOf (machine.engine.caches.get? id)
  | .spread id => ∃ records, machine.agenda.head? = some (.refill id records)
  | _ => False

/-- Only what passes a result on is followed by anything. -/
theorem Activity.Follows.applying {machine : Machine} {activity : Activity}
    (follows : activity.Follows machine) :
    ∃ before, machine.agenda.head? = some before ∧ before.isApplying := by
  cases activity with
  | serve id | spread id =>
      rcases follows with ⟨_, head⟩
      exact ⟨_, head, rfl⟩
  | serveItem id item callback =>
      rcases follows with ⟨⟨_, head⟩, _⟩
      exact ⟨_, head, rfl⟩
  | _ => exact follows.elim

namespace Machine

variable {machine after : Machine}

@[simp]
theorem due_append (first second : List Activity) :
    due (first ++ second) = due first ++ due second :=
  List.filterMap_append

theorem due_call_cons (callback : Callback) (notice : Notice) (rest : List Activity) :
    due (.call callback notice :: rest) = (callback.id, notice) :: due rest :=
  rfl

/-- Callbacks that are all to be called with one notice. -/
theorem due_calls (callbacks : List Callback) (notice : Notice) :
    due (callbacks.map (.call · notice)) = callbacks.map fun callback => (callback.id, notice) := by
  rw [due, List.filterMap_map, ← List.filterMap_eq_map]
  rfl

theorem due_of_ordinary {MayBear : Nat → Prop} {activities : List Activity}
    (ordinary : ∀ activity ∈ activities, activity.Ordinary MayBear) : due activities = [] := by
  refine List.filterMap_eq_nil_iff.mpr fun activity member => ?_
  have isOrdinary := ordinary activity member
  cases activity <;> first | rfl | exact isOrdinary.elim

theorem due_of_follows {activities : List Activity}
    (follows : ∀ activity ∈ activities, activity.Follows machine) : due activities = [] := by
  refine List.filterMap_eq_nil_iff.mpr fun activity member => ?_
  have isFollowing := follows activity member
  cases activity <;> first | rfl | exact isFollowing.elim

/-- How a result is passed on. -/
inductive PassesOn (machine : Machine) (rest : List Activity) (after : Machine) : Prop where
  /-- Nobody is called, and more follows. -/
  | quiet {others : List Activity} (agenda : after.agenda = others ++ rest)
      (gives : machine.gives = [])
      (follows : ∀ activity ∈ others, activity.Follows machine)
  /-- Callbacks are all called with one notice, and more follows. -/
  | calls {callbacks : List Callback} {notice : Notice} {others : List Activity}
      (agenda : after.agenda = callbacks.map (.call · notice) ++ others ++ rest)
      (gives : machine.gives = callbacks.map fun callback => (callback.id, notice))
      (follows : ∀ activity ∈ others, activity.Follows machine)

section Passing

variable {id : Nat} {rest : List Activity}

theorem refresh_passesOn {result : QueryResult}
    (agenda : machine.agenda = .refresh id result :: rest) :
    machine.PassesOn rest (refresh { machine with agenda := rest } id result) := by
  have serves : (Activity.serve id).Follows machine := ⟨result, by rw [agenda]; rfl⟩
  have gives : machine.gives =
      if (machine.engine.valueOf? id).any (·.same result) then []
      else (machine.engine.posted (.consumer id)).map (·, .result (some result)) := by
    rw [Machine.gives, agenda]
    rfl
  simp only [refresh]
  split
  · next none =>
      refine .quiet rfl ?_ (List.forall_mem_nil _)
      rw [gives, Engine.valueOf?, Engine.posted, none]
      rfl
  · next binding held =>
      have value : machine.engine.valueOf? id = binding.value? := by
        rw [Engine.valueOf?, held, Option.bind_some]
      have consumers : machine.engine.posted (.consumer id) =
          binding.consumers.all.map Callback.id := by
        rw [Engine.posted, held]
        rfl
      rw [value, consumers] at gives
      split
      · next same =>
          exact .quiet rfl (gives.trans (if_pos same)) (List.forall_mem_singleton.mpr serves)
      · next differs =>
          refine .calls rfl ?_ (List.forall_mem_singleton.mpr serves)
          exact (gives.trans (if_neg differs)).trans (List.map_map ..)

theorem serve_passesOn (agenda : machine.agenda = .serve id :: rest) :
    machine.PassesOn rest (serve { machine with agenda := rest } id) := by
  have gives : machine.gives = (machine.engine.posted (.fetcher id)).map
      (·, .result (machine.engine.valueOf? id)) := by
    rw [Machine.gives, agenda]
    rfl
  simp only [Engine.valueOf?, Engine.posted] at gives
  simp only [serve]
  split
  · next none =>
      refine .quiet rfl ?_ (List.forall_mem_nil _)
      rw [gives, none]
      rfl
  · next binding held =>
      rw [held] at gives
      refine .calls (congrArg (· ++ rest) (List.append_nil _).symm) ?_ (List.forall_mem_nil _)
      exact gives.trans (List.map_map ..)

theorem refill_passesOn {records : List Record}
    (agenda : machine.agenda = .refill id records :: rest) :
    machine.PassesOn rest (refill { machine with agenda := rest } id records) := by
  have refills : ∃ records, machine.agenda.head? = some (.refill id records) :=
    ⟨records, by rw [agenda]; rfl⟩
  have gives : machine.gives = [] := by
    rw [Machine.gives, agenda]
    rfl
  simp only [refill]
  split
  · exact .quiet rfl gives (List.forall_mem_nil _)
  · next cache held =>
      refine .quiet rfl gives (List.forall_mem_append.mpr
        ⟨List.forall_mem_map.mpr fun waits waiting => ⟨refills, ?_⟩,
          List.forall_mem_singleton.mpr refills⟩)
      rw [held]
      exact List.mem_map_of_mem waiting

theorem serveItem_passesOn {item : Value} {callback : Callback}
    (agenda : machine.agenda = .serveItem id item callback :: rest) :
    machine.PassesOn rest (serveItem { machine with agenda := rest } id item callback) := by
  have gives : machine.gives =
      if (machine.engine.caches.get? id).isSome then
        [(callback.id, .item ((machine.engine.itemsOf id).find? item))]
      else [] := by
    rw [Machine.gives, agenda]
    rfl
  simp only [Engine.itemsOf] at gives
  simp only [serveItem]
  split
  · next none =>
      refine .quiet rfl ?_ (List.forall_mem_nil _)
      rw [gives, none]
      rfl
  · next cache held =>
      rw [held] at gives
      let notice : Notice := .item (cache.items.find? item)
      have calls : [callback].map (Activity.call · notice) ++ [] ++ rest =
          .call callback notice :: rest := rfl
      exact .calls calls.symm gives (List.forall_mem_nil _)

theorem spread_passesOn (agenda : machine.agenda = .spread id :: rest) :
    machine.PassesOn rest (spread { machine with agenda := rest } id) := by
  have gives : machine.gives = (machine.engine.posted (.follower id)).map
      (·, .items (machine.engine.itemsOf id)) := by
    rw [Machine.gives, agenda]
    rfl
  simp only [Engine.itemsOf, Engine.posted] at gives
  simp only [spread]
  split
  · next none =>
      refine .quiet rfl ?_ (List.forall_mem_nil _)
      rw [gives, none]
      rfl
  · next cache held =>
      rw [held] at gives
      refine .calls (congrArg (· ++ rest) (List.append_nil _).symm) ?_ (List.forall_mem_nil _)
      exact gives.trans (List.map_map ..)

end Passing

/-- However a result is passed on, that calls just the callbacks it is given to. -/
theorem applies_passesOn {activity : Activity} {rest : List Activity}
    (agenda : machine.agenda = activity :: rest) (applies : activity.isApplying) :
    machine.PassesOn rest (act { machine with agenda := rest } activity) := by
  cases activity with
  | refresh id result => exact refresh_passesOn agenda
  | serve id => exact serve_passesOn agenda
  | refill id records => exact refill_passesOn agenda
  | serveItem id item callback => exact serveItem_passesOn agenda
  | spread id => exact spread_passesOn agenda
  | _ => contradiction

end Machine

/-- Where a callback stands in an engine that has gone on, it stood before, or it is new there. -/
theorem Engine.Retains.stands {terms : Terms} {before after : Engine}
    (retains : before.Retains terms after) {post : Post} {number : Nat}
    (stands : after.Stands post number) :
    before.Stands post number ∨ before.nextId ≤ number ∧ terms.joins post number := by
  rcases stands with posted | ⟨rfl, elsewhere⟩
  · cases post with
    | consumer id =>
        exact ((retains.bindings id).consumers.admitted_of_mem posted).imp_left .inl
    | fetcher id =>
        exact ((retains.bindings id).fetchers.admitted_of_mem posted).imp_left .inl
    | follower id =>
        exact ((retains.caches id).followers.admitted_of_mem posted).imp_left .inl
    | requester id =>
        exact ((retains.caches id).requesters.admitted_of_mem posted).imp_left .inl
    | elsewhere => exact absurd posted List.not_mem_nil
  · exact (retains.elsewhere elsewhere).imp (fun stood => .inr ⟨rfl, stood⟩)
      fun ⟨low, _, joins⟩ => ⟨low, joins⟩

/-- What may have come in front of the agenda of a machine with its step. -/
inductive Activity.Comes (machine : Machine) : Activity → Prop where
  | ordinary {activity : Activity} (ordinary : activity.Ordinary machine.engine.Elsewhere) :
      Comes machine activity
  | follows {activity : Activity} (follows : activity.Follows machine) : Comes machine activity
  | renews {activity : Activity} (renews : activity.renews) : Comes machine activity
  | calls {callback : Callback} {notice : Notice}
      (calls : (callback.id, notice) ∈ machine.gives ∨ machine.MayCall callback.id) :
      Comes machine (.call callback notice)

namespace Machine

variable {machine after : Machine} {post : Post} {number : Nat}

theorem comes_of_orderly {activities : List Activity}
    (orderly : Orderly machine.engine.Elsewhere machine.MayCall activities) :
    ∀ activity ∈ activities, activity.Comes machine := by
  cases orderly with
  | quiet ordinary => exact fun activity member => .ordinary (ordinary activity member)
  | calls mayCall ordinary =>
      exact List.forall_mem_cons.mpr
        ⟨.calls (.inr mayCall), fun activity member => .ordinary (ordinary activity member)⟩

/-- What a turn puts in front of the agenda. -/
theorem Turn.comes (turn : machine.Turn after) :
    ∃ added, after.agenda = added ++ machine.agenda.tail ∧
      ∀ activity ∈ added, activity.Comes machine := by
  cases turn with
  | ordinary agenda orderly _ _ => exact ⟨_, agenda, comes_of_orderly orderly⟩
  | @succeeded success succeeds =>
      rcases succeeds.agenda with ⟨ran, rest, agenda, goesOn⟩
      refine ⟨[success.told, .flush, .drain (ran + 1) none], ?_, ?_⟩
      · rw [goesOn, agenda]
        rfl
      · simp only [List.forall_mem_cons]
        exact ⟨.renews success.renews_told, .ordinary trivial, .ordinary trivial,
          List.forall_mem_nil _⟩
  | applied agenda applies does =>
      rcases does ▸ applies_passesOn agenda applies with
        ⟨goesOn, _, follows⟩ | ⟨goesOn, gives, follows⟩ <;> rw [agenda, List.tail_cons]
      · exact ⟨_, goesOn, fun activity member => .follows (follows activity member)⟩
      · refine ⟨_, goesOn, List.forall_mem_append.mpr ⟨List.forall_mem_map.mpr ?_,
          fun activity member => .follows (follows activity member)⟩⟩
        exact fun callback member => .calls (.inl (gives ▸ List.mem_map_of_mem member))

theorem gives_of_not_applies
    (appliesNot : ∀ activity, machine.agenda.head? = some activity → activity.isApplying = false) :
    machine.gives = [] := by
  rw [gives]
  cases head : machine.agenda.head? with
  | none => rfl
  | some activity =>
      have not := appliesNot activity head
      cases activity <;> first | contradiction | rfl

theorem success?_eq_none (drainsNot : ∀ ran rest, machine.agenda ≠ .drain ran none :: rest) :
    machine.success? = none := by
  rw [success?, unitRun?]
  split
  · next ran rest _ _ _ _ agenda _ => exact absurd agenda (drainsNot ran rest)
  · rfl

/-- A unit succeeds only where the next task is run. -/
theorem drains_of_success {success : Success} (succeeds : machine.success? = some success) :
    machine.drains := by
  rw [success?, unitRun?] at succeeds
  split at succeeds
  · next agenda _ => rw [drains, agenda]
  · contradiction

/-- What passes a result on does just that. -/
theorem Turn.does {activity : Activity} {rest : List Activity} (turn : machine.Turn after)
    (agenda : machine.agenda = activity :: rest) (applies : activity.isApplying) :
    after = act { machine with agenda := rest } activity := by
  cases turn with
  | ordinary _ _ _ appliesNot =>
      have not := appliesNot activity (by rw [agenda]; rfl)
      exact absurd applies (by rw [not]; exact Bool.false_ne_true)
  | succeeded succeeds =>
      rcases succeeds.agenda with ⟨ran, others, drains, _⟩
      rcases List.cons.inj (agenda.symm.trans drains) with ⟨rfl, _⟩
      contradiction
  | applied is _ does =>
      rcases List.cons.inj (agenda.symm.trans is) with ⟨rfl, rfl⟩
      exact does

/-- Callbacks that no ordinary turn may call are called only where results are passed on. -/
theorem Turn.account (turn : machine.Turn after) (past : List Machine) {kind : Nat × Notice → Bool}
    (mayNot : ∀ call, kind call → ¬ machine.MayCall call.1) :
    (calls (machine :: past) ++ due after.agenda).filter kind =
      (calls past ++ machine.calling?.toList).filter kind ++ machine.gives.filter kind ++
        (due machine.agenda.tail).filter kind := by
  have enough {added : List Activity} (agenda : after.agenda = added ++ machine.agenda.tail)
      (same : (due added).filter kind = machine.gives.filter kind) :
      (calls (machine :: past) ++ due after.agenda).filter kind =
        (calls past ++ machine.calling?.toList).filter kind ++ machine.gives.filter kind ++
          (due machine.agenda.tail).filter kind := by
    rw [agenda, due_append, calls, gather_cons, ← calls, List.filter_append _ (_ ++ _),
      List.filter_append (due added), same, List.append_assoc]
  cases turn with
  | ordinary agenda orderly _ appliesNot =>
      refine enough agenda ?_
      rw [gives_of_not_applies appliesNot]
      cases orderly with
      | quiet ordinary => rw [due_of_ordinary ordinary]
      | @calls callback notice _ mayCall ordinary =>
          have none : ¬ kind (callback.id, notice) := fun is => mayNot _ is mayCall
          rw [due_call_cons, due_of_ordinary ordinary, List.filter_cons_of_neg none]
  | @succeeded success succeeds =>
      rcases succeeds.agenda with ⟨ran, rest, agenda, goesOn⟩
      have added : after.agenda =
          [success.told, .flush, .drain (ran + 1) none] ++ machine.agenda.tail := by
        rw [goesOn, agenda]
        rfl
      refine enough added ?_
      rw [gives_of_not_applies (by rw [agenda]; rintro _ ⟨⟩; rfl)]
      rcases success with ⟨owner, unit, result⟩
      cases owner <;> rfl
  | applied agenda applies does =>
      rcases does ▸ applies_passesOn agenda applies with
        ⟨goesOn, gives, follows⟩ | ⟨goesOn, gives, follows⟩
      · refine enough (by rw [goesOn, agenda]; rfl) ?_
        rw [gives, due_of_follows follows]
      · refine enough (by rw [goesOn, agenda]; rfl) ?_
        rw [gives, due_append, due_calls, due_of_follows follows, List.append_nil]

/-- Where a callback stands after a turn, it stood before, or it was registered just there. -/
theorem TurnsTo.stands (turns : machine.TurnsTo after) (stands : after.Stands post number) :
    machine.Stands post number ∨ machine.registers? = some (post, number) := by
  rcases turns.turn.comes with ⟨added, agenda, comes⟩
  cases stands with
  | there stands => exact (turns.retains.stands stands).imp .there And.right
  | @bears _ activity member bears =>
      rw [agenda] at member
      rcases List.mem_append.mp member with new | old
      · have elsewhere : machine.engine.Elsewhere number := by
          cases comes activity new with
          | ordinary ordinary =>
              cases activity with
              | tell listener batch =>
                  cases listener with
                  | registry generation => contradiction
                  | callback callback => exact beq_iff_eq.mp bears ▸ ordinary
              | alert watcher table => exact ordinary number bears
              | _ => contradiction
          | follows follows => cases activity <;> contradiction
          | renews renews => cases activity <;> contradiction
          | calls => contradiction
        exact .inl (.there (.inr ⟨rfl, elsewhere⟩))
      · exact .inl (.bears (List.mem_of_mem_tail old) bears)
  | @served id item callback member =>
      rw [agenda] at member
      rcases List.mem_append.mp member with new | old
      · refine .inl (.there (.inl ?_))
        generalize is : Activity.serveItem id item callback = activity at new
        cases comes activity new with
        | ordinary ordinary => exact (is ▸ ordinary).elim
        | follows follows =>
            subst is
            exact List.mem_map_of_mem follows.2
        | renews renews =>
            subst is
            contradiction
        | calls => contradiction
      · exact .inl (.served (List.mem_of_mem_tail old))

/-- The next step gives the callback of a number a result, from the post where it stands. -/
inductive GivesTo (machine : Machine) (number : Nat) : Post → Prop where
  | consumer {id : Nat} {result : QueryResult}
      (head : machine.agenda.head? = some (.refresh id result))
      (posted : number ∈ machine.engine.posted (.consumer id)) :
      GivesTo machine number (.consumer id)
  | fetcher {id : Nat} (head : machine.agenda.head? = some (.serve id))
      (posted : number ∈ machine.engine.posted (.fetcher id)) :
      GivesTo machine number (.fetcher id)
  | requester {id : Nat} {item : Value} {callback : Callback}
      (head : machine.agenda.head? = some (.serveItem id item callback))
      (numbered : callback.id = number) : GivesTo machine number (.requester id)
  | follower {id : Nat} (head : machine.agenda.head? = some (.spread id))
      (posted : number ∈ machine.engine.posted (.follower id)) :
      GivesTo machine number (.follower id)

theorem GivesTo.stands (gives : machine.GivesTo number post) : machine.Stands post number := by
  cases gives with
  | consumer _ posted | fetcher _ posted | follower _ posted => exact .there (.inl posted)
  | requester head numbered => exact numbered ▸ .served (List.mem_of_mem_head? head)

/-- Whoever a result is given to stands with a binding or a cache. -/
theorem givesTo_of_mem {call : Nat × Notice} (given : call ∈ machine.gives) :
    ∃ post, machine.GivesTo call.1 post := by
  rw [gives] at given
  split at given
  · next id result head =>
      split at given
      · contradiction
      · rcases List.mem_map.mp given with ⟨number, posted, rfl⟩
        exact ⟨_, .consumer head posted⟩
  · next id head =>
      rcases List.mem_map.mp given with ⟨number, posted, rfl⟩
      exact ⟨_, .fetcher head posted⟩
  · next id item callback head =>
      split at given
      · rcases List.mem_singleton.mp given with rfl
        exact ⟨_, .requester head rfl⟩
      · contradiction
  · next id head =>
      rcases List.mem_map.mp given with ⟨number, posted, rfl⟩
      exact ⟨_, .follower head posted⟩
  · contradiction

/-- A call that is due after a turn was due before, or its callback stood or was registered. -/
theorem TurnsTo.due (turns : machine.TurnsTo after) {call : Nat × Notice}
    (isDue : call ∈ due after.agenda) :
    call ∈ Machine.due machine.agenda.tail ∨ (∃ post, machine.Stands post call.1) ∨
      ∃ post, machine.registers? = some (post, call.1) := by
  rcases turns.turn.comes with ⟨added, agenda, comes⟩
  rw [agenda, due_append] at isDue
  rcases List.mem_append.mp isDue with new | old
  · rcases List.mem_filterMap.mp new with ⟨activity, member, calls⟩
    right
    cases comes activity member with
    | ordinary ordinary =>
        cases activity with
        | call _ _ => exact ordinary.elim
        | _ => contradiction
    | follows follows =>
        cases activity with
        | call _ _ => exact follows.elim
        | _ => contradiction
    | renews renews => cases activity <;> contradiction
    | calls may =>
        rcases Option.some.inj calls with rfl
        rcases may with gives | may
        · exact .inl ((givesTo_of_mem gives).imp fun _ given => given.stands)
        · exact (MayCall.stands may).imp_left fun stands => ⟨_, stands⟩
  · exact .inl old

theorem mem_due_of_tail {call : Nat × Notice} (isDue : call ∈ Machine.due machine.agenda.tail) :
    call ∈ Machine.due machine.agenda := by
  rw [due_agenda]
  exact List.mem_append_right _ isDue

end Machine

end LiveTable
