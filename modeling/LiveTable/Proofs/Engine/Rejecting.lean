import LiveTable.Proofs.Engine.Courses

/-!
# What is closed rejects everything

A binding and a cache are closed in the same way, by their name, by dropping it, or when the last
command lets them go that held them.  From then on no unit is made for them, and whatever they are
asked, that queues nothing and lets them watch nothing.
-/

set_option autoImplicit false

namespace LiveTable

/-! ## Bindings and caches alike -/

namespace Owner

/-- The number of a binding or a cache, under which it is executed and watches its table. -/
def id : Owner → Nat
  | .binding id | .cache id => id

/-- The job of its units. -/
def job : Owner → Job
  | .binding _ => .binding
  | .cache _ => .cache

/-- The places where callbacks stand with it. -/
def posts : Owner → List Post
  | .binding id => [.consumer id, .fetcher id]
  | .cache id => [.follower id, .requester id]

/-- The command that closes it by its name. -/
def closing (name : String) : Owner → Command
  | .binding _ => .binding (.close name)
  | .cache _ => .cache (.close name)

end Owner

namespace Engine

variable (engine : Engine)

/-- Whether a binding or a cache is there. -/
def hasObject : Owner → Bool
  | .binding id => (engine.bindings.get? id).isSome
  | .cache id => (engine.caches.get? id).isSome

/-- Whether a binding or a cache is closed. -/
def hasClosed : Owner → Bool
  | .binding id => engine.hasClosedBinding id
  | .cache id => engine.hasClosedCache id

/-- A name stands for a binding or a cache. -/
def Names (name : String) : Owner → Prop
  | .binding id => (engine.handles name).binding? = some id ∧ (engine.bindings.get? id).isSome
  | .cache id => (engine.handles name).cache? = some id ∧ (engine.caches.get? id).isSome

variable {engine} {owner : Owner} {before after : Engine}

/-- What is closed needs no unit. -/
theorem unit?_of_closed (closed : engine.hasClosed owner) :
    engine.unit? owner.id owner.job = none := by
  cases owner with
  | binding id =>
      rcases (Option.any_eq_true _ _).mp closed with ⟨binding, held, isClosed⟩
      simp only [Owner.id, Owner.job, unit?, held, Option.bind_some, Binding.unit?, isClosed,
        if_true]
  | cache id =>
      rcases (Option.any_eq_true _ _).mp closed with ⟨cache, held, isClosed⟩
      simp only [Owner.id, Owner.job, unit?, held, Option.bind_some, ItemCache.unit?, isClosed,
        if_true]

theorem Retains.hasClosed {terms : Terms} (retains : before.Retains terms after)
    (closed : before.hasClosed owner) : after.hasClosed owner := by
  cases owner with
  | binding id => exact (retains.bindings id).closed closed
  | cache id => exact (retains.caches id).closed closed

theorem Retains.hasObject {terms : Terms} (retains : before.Retains terms after)
    (isThere : before.hasObject owner) : after.hasObject owner := by
  cases owner with
  | binding id => exact (retains.bindings id).held isThere
  | cache id => exact (retains.caches id).held isThere

theorem hasClosed_congr (bindings : after.bindings = before.bindings)
    (caches : after.caches = before.caches) : after.hasClosed owner = before.hasClosed owner := by
  cases owner with
  | binding id => rw [hasClosed, hasClosedBinding, bindings]; rfl
  | cache id => rw [hasClosed, hasClosedCache, caches]; rfl

/-- Whoever stands with what is closed since then came after that. -/
theorem Retains.emptied {terms : Terms} (retains : before.Retains terms after)
    (isOpen : before.hasClosed owner = false) (closed : after.hasClosed owner) :
    ∀ number ∈ owner.posts.flatMap after.posted, before.nextId ≤ number := by
  have not : ¬ before.hasClosed owner := Bool.eq_false_iff.mp isOpen
  cases owner with
  | binding id =>
      have new := ((retains.bindings id).emptied closed).resolve_left not
      simp only [Owner.posts, List.flatMap_cons, List.flatMap_nil, List.append_nil]
      exact new
  | cache id =>
      have new := ((retains.caches id).emptied closed).resolve_left not
      simp only [Owner.posts, List.flatMap_cons, List.flatMap_nil, List.append_nil]
      exact new

/-- A callback that stood with what is closed since then stands there no more. -/
theorem Retains.not_posted {terms : Terms} (retains : before.Retains terms after)
    (isOpen : before.hasClosed owner = false) (closed : after.hasClosed owner) {post : Post}
    (own : post ∈ owner.posts) {number : Nat} (given : number < before.nextId) :
    number ∉ after.posted post := by
  intro posted
  have all : number ∈ owner.posts.flatMap after.posted := List.mem_flatMap.mpr ⟨post, own, posted⟩
  exact absurd given (Nat.not_lt_of_le (retains.emptied isOpen closed number all))

/-- A number is not that of a closed binding and of a closed cache. -/
theorem Apart.not_both {id : Nat} (apart : engine.Apart id) (binding : engine.hasClosedBinding id) :
    ¬ engine.hasClosedCache id := by
  rcases (Option.any_eq_true _ _).mp binding with ⟨binding, held, _⟩
  rw [hasClosedCache, (apart.binding (Option.isSome_of_eq_some held)).2]
  exact Bool.false_ne_true

/-- Until it was closed, nothing else was closed under its number. -/
theorem Retains.unwatched_before {terms : Terms} (retains : before.Retains terms after)
    (apart : after.Apart owner.id) (isOpen : before.hasClosed owner = false)
    (closed : after.hasClosed owner) : before.Unwatched owner.id := by
  cases owner with
  | binding id =>
      rintro (was | cache)
      · exact absurd was (Bool.eq_false_iff.mp isOpen)
      · exact absurd ((retains.caches id).closed cache) (apart.not_both closed)
  | cache id =>
      rintro (binding | was)
      · exact absurd closed (apart.not_both ((retains.bindings id).closed binding))
      · exact absurd was (Bool.eq_false_iff.mp isOpen)

theorem Unwatched.tableOf? (unwatched : engine.Unwatched owner.id)
    (closed : engine.hasClosed owner) : engine.registry.tableOf? owner.id = none := by
  cases owner with
  | binding id => exact unwatched (.inl closed)
  | cache id => exact unwatched (.inr closed)

end Engine

/-! ## Closing -/

namespace Engine

variable {engine : Engine} {owner : Owner}

theorem Names.hasObject {name : String} (names : engine.Names name owner) :
    engine.hasObject owner := by
  cases owner <;> exact names.2

theorem Names.binding? {name : String} {id : Nat} (names : engine.Names name (.binding id)) :
    ∃ binding, engine.binding? name = some (id, binding) := by
  rcases Option.isSome_iff_exists.mp names.2 with ⟨binding, held⟩
  refine ⟨binding, ?_⟩
  simp only [Engine.binding?, names.1, held, Option.bind_eq_bind, Option.bind_some, Option.pure_def]

theorem Names.cache? {name : String} {id : Nat} (names : engine.Names name (.cache id)) :
    ∃ cache, engine.cache? name = some (id, cache) := by
  rcases Option.isSome_iff_exists.mp names.2 with ⟨cache, held⟩
  refine ⟨cache, ?_⟩
  simp only [Engine.cache?, names.1, held, Option.bind_eq_bind, Option.bind_some, Option.pure_def]

theorem hasClosedBinding_close {id : Nat} (isThere : (engine.bindings.get? id).isSome) :
    (engine.closeBinding id).hasClosedBinding id := by
  rcases Option.isSome_iff_exists.mp isThere with ⟨binding, held⟩
  simp only [closeBinding, held]
  split
  · next isClosed => rw [hasClosedBinding, held, Option.any_some, isClosed]
  · rw [hasClosedBinding_modifyBinding, if_pos rfl,
      show (engine.leave id).bindings.get? id = some binding from held]
    rfl

theorem hasClosedCache_close {id : Nat} (isThere : (engine.caches.get? id).isSome) :
    (engine.closeCache id).hasClosedCache id := by
  rcases Option.isSome_iff_exists.mp isThere with ⟨cache, held⟩
  simp only [closeCache, held]
  split
  · next isClosed => rw [hasClosedCache, held, Option.any_some, isClosed]
  · rw [hasClosedCache, get?_modifyCache, if_pos rfl,
      show (engine.leave id).caches.get? id = some cache from held]
    rfl

theorem caches_closeBinding (engine : Engine) (id : Nat) :
    (engine.closeBinding id).caches = engine.caches := by
  rw [closeBinding]
  split
  · rfl
  · split <;> rfl

theorem bindings_closeCache (engine : Engine) (id : Nat) :
    (engine.closeCache id).bindings = engine.bindings := by
  rw [closeCache]
  split
  · rfl
  · split <;> rfl

theorem hasClosed_closeObject (isThere : engine.hasObject owner) :
    (engine.closeObject owner.id).hasClosed owner := by
  cases owner with
  | binding id =>
      change ((engine.closeBinding id).closeCache id).hasClosedBinding id
      rw [hasClosedBinding, bindings_closeCache]
      exact hasClosedBinding_close isThere
  | cache id =>
      refine hasClosedCache_close ?_
      rwa [caches_closeBinding]

/-- What is given up while nobody holds it is closed. -/
theorem hasClosed_discard (isThere : engine.hasObject owner)
    (free : engine.isHeld (.object owner.id) = false) :
    (engine.discard owner.id).hasClosed owner := by
  rw [discard, free]
  exact hasClosed_closeObject isThere

/-- What is given up is closed with its last holder. -/
theorem hasClosed_letGo (isThere : engine.hasObject owner)
    (givenUp : engine.discarded.contains owner.id)
    (last : (engine.holds.erase (.object owner.id)).contains (.object owner.id) = false) :
    (engine.letGo (.object owner.id)).hasClosed owner := by
  let less : Engine := { engine with holds := engine.holds.erase (.object owner.id) }
  have settles : engine.letGo (.object owner.id) = less.settleGivenUp (.object owner.id) :=
    if_neg (Bool.eq_false_iff.mp last)
  have still : less.hasObject owner := by cases owner <;> exact isThere
  have closes : (less.closeObject owner.id).hasClosed owner := hasClosed_closeObject still
  rw [settles, settleGivenUp, if_pos givenUp]
  cases owner <;> exact closes

theorem holds_discard (engine : Engine) (id : Nat) : (engine.discard id).holds = engine.holds := by
  have closes (engine : Engine) : (engine.closeCache id).holds = engine.holds := by
    rw [closeCache]
    split
    · rfl
    · split <;> rfl
  rw [discard]
  split
  · rfl
  · rw [closeObject, closes, closeBinding]
    split
    · rfl
    · split <;> rfl

/-- What a name that is dropped stands for is closed, unless it is held. -/
theorem hasClosed_drop {name : String} (names : engine.Names name owner)
    (free : engine.isHeld (.object owner.id) = false) : (engine.drop name).hasClosed owner := by
  let terms : Terms := ⟨fun _ _ => False, fun _ => False, fun _ => False⟩
  let unnamed : Engine := { engine with names := engine.names.erase name }
  let left := (engine.handles name).watch?.elim unnamed unnamed.leave
  let fewer := (engine.handles name).binding?.elim left left.discard
  have drops : engine.drop name = (engine.handles name).cache?.elim fewer fewer.discard := rfl
  have leaving (id? : Option Nat) : (id?.elim unnamed unnamed.leave).hasObject owner ∧
      (id?.elim unnamed unnamed.leave).isHeld (.object owner.id) = false := by
    have before : unnamed.hasObject owner := by cases owner <;> exact names.2
    cases id? <;> exact ⟨by cases owner <;> exact before, free⟩
  rcases leaving (engine.handles name).watch? with ⟨isThere, freeStill⟩
  have discarding (id? : Option Nat) : (id?.elim left left.discard).isHeld (.object owner.id) =
      left.isHeld (.object owner.id) := by
    cases id? with
    | none => rfl
    | some id => exact congrArg (List.contains · _) (holds_discard left id)
  have onwards (id? : Option Nat) : fewer.Retains terms (id?.elim fewer fewer.discard) :=
    fewer.retains_elim fewer.retains_discard id?
  rw [drops]
  cases owner with
  | binding id =>
      have closes : fewer = left.discard id := congrArg (Option.elim · left left.discard) names.1
      exact (onwards _).hasClosed (closes ▸ hasClosed_discard isThere freeStill)
  | cache id =>
      have retains : left.Retains terms fewer := left.retains_elim left.retains_discard _
      rw [names.1]
      exact hasClosed_discard (retains.hasObject isThere) ((discarding _).trans freeStill)

end Engine

/-! ## What is asked of what is closed -/

namespace Engine

/-- In an engine and a later one the same is queued for the same executors, and watched. -/
structure WorksAlike (before after : Engine) : Prop where
  queue : after.queue = before.queue
  busy : after.busy = before.busy
  registry : after.registry = before.registry

theorem WorksAlike.trans {first middle last : Engine} (early : first.WorksAlike middle)
    (late : middle.WorksAlike last) : first.WorksAlike last :=
  ⟨late.queue.trans early.queue, late.busy.trans early.busy, late.registry.trans early.registry⟩

section Asking

variable {engine : Engine} {id : Nat}

theorem requestBinding_of_closed (closed : engine.hasClosedBinding id) :
    engine.requestBinding id = (.rejected, engine) := by
  rcases (Option.any_eq_true _ _).mp closed with ⟨binding, held, isClosed⟩
  simp only [requestBinding, held, isClosed, if_true]

theorem requestCache_of_closed (closed : engine.hasClosedCache id) :
    engine.requestCache id = (.rejected, engine) := by
  rcases (Option.any_eq_true _ _).mp closed with ⟨cache, held, isClosed⟩
  simp only [requestCache, held, isClosed, if_true]

theorem hasClosedBinding_modify {change : Binding → Binding}
    (stays : ∀ binding, (change binding).isClosed = binding.isClosed) :
    (engine.modifyBinding id change).hasClosedBinding id = engine.hasClosedBinding id := by
  rw [hasClosedBinding_modifyBinding, if_pos rfl, hasClosedBinding]
  exact congrArg (Option.any · _) (funext stays)

theorem hasClosedCache_modify {change : ItemCache → ItemCache}
    (stays : ∀ cache, (change cache).isClosed = cache.isClosed) :
    (engine.modifyCache id change).hasClosedCache id = engine.hasClosedCache id := by
  rw [hasClosedCache, get?_modifyCache, if_pos rfl, Option.any_map, hasClosedCache]
  exact congrArg (Option.any · _) (funext stays)

/-- A closed binding may change, but asking it for its execution after that does nothing. -/
theorem worksAlike_changeBinding (closed : engine.hasClosedBinding id) {change : Binding → Binding}
    (stays : ∀ binding, (change binding).isClosed = binding.isClosed) :
    engine.WorksAlike ((engine.modifyBinding id change).requestBinding id).2 := by
  rw [requestBinding_of_closed ((hasClosedBinding_modify stays).trans closed)]
  exact ⟨rfl, rfl, rfl⟩

theorem worksAlike_setDescriptor (closed : engine.hasClosedBinding id) (binding : Binding)
    (descriptor : Descriptor) :
    engine.WorksAlike (engine.setDescriptor id binding descriptor).2 := by
  rw [setDescriptor]
  split
  · exact ⟨rfl, rfl, rfl⟩
  · exact worksAlike_changeBinding closed fun _ => rfl

theorem worksAlike_setTable (closed : engine.hasClosedBinding id) {binding : Binding}
    (isClosed : binding.isClosed) (table : String) :
    engine.WorksAlike (engine.setTable id binding table).2 := by
  rw [setTable]
  split
  · exact ⟨rfl, rfl, rfl⟩
  · exact worksAlike_changeBinding closed fun _ => rfl

theorem worksAlike_fetch (closed : engine.hasClosedBinding id) {binding : Binding}
    (isClosed : binding.isClosed) (table? : Option String) (descriptor? : Option Descriptor)
    (callback : Callback) :
    engine.WorksAlike (engine.fetch id binding table? descriptor? callback).2 := by
  simp only [fetch]
  split
  · exact ⟨rfl, rfl, rfl⟩
  · split
    · next table _ =>
        let change (former : Binding) : Binding :=
          { former with
            waiting := former.waiting ++ [callback]
            descriptor :=
              (descriptor?.filter (!binding.descriptor.same ·)).getD former.descriptor }
        have waits : engine.WorksAlike (engine.modifyBinding id change) := ⟨rfl, rfl, rfl⟩
        have changed : (engine.modifyBinding id change).hasClosedBinding id := by
          refine (hasClosedBinding_modify ?_).trans closed
          exact fun _ => rfl
        exact waits.trans (worksAlike_setTable changed isClosed table)
    · exact worksAlike_changeBinding closed fun _ => rfl

theorem worksAlike_trackItem (closed : engine.hasClosedCache id) (item : Value)
    (callback? : Option Callback) :
    engine.WorksAlike (engine.trackItem id item callback?) := by
  rw [trackItem, requestCache_of_closed]
  · exact ⟨rfl, rfl, rfl⟩
  · refine (hasClosedCache_modify ?_).trans closed
    exact fun _ => rfl

end Asking

end Engine

/-- The binding or the cache that a command may have executed. -/
def Command.asks? (engine : Engine) : Command → Option Owner
  | .binding (.setDescriptor name _) | .binding (.setTable name _) | .binding (.addClause name _)
  | .binding (.refresh name) | .binding (.fetch name _ _ _) =>
    (engine.binding? name).map fun found => .binding found.1
  | .cache (.request name _ _) | .cache (.fetch name) =>
    (engine.cache? name).map fun found => .cache found.1
  | _ => none

/-- The binding or the cache that an activity may have executed, by a command or by an alert. -/
def Activity.asks? (engine : Engine) : Activity → Option Owner
  | .perform command => command.asks? engine
  | .alert (.binding id) _ => some (.binding id)
  | .alert (.cache id) _ => some (.cache id)
  | _ => none

namespace Machine

variable {machine : Machine} {owner : Owner}

theorem worksAlike_performIssued {command : BindingCommand Command}
    (asks : (Command.binding command).asks? machine.engine = some owner)
    (closed : machine.engine.hasClosed owner) :
    machine.engine.WorksAlike (machine.performIssued command).engine := by
  have named {name : String} (asks : (machine.engine.binding? name).map
      (fun found => Owner.binding found.1) = some owner) :
      ∃ id binding, machine.engine.binding? name = some (id, binding) ∧
        machine.engine.hasClosedBinding id ∧ binding.isClosed := by
    rcases Option.map_eq_some_iff.mp asks with ⟨⟨id, binding⟩, found, rfl⟩
    refine ⟨id, binding, found, closed, ?_⟩
    have isClosed : machine.engine.hasClosedBinding id := closed
    rwa [Engine.hasClosedBinding, Engine.held_of_binding? found, Option.any_some] at isClosed
  cases command with
  | setDescriptor name descriptor =>
      rcases named asks with ⟨id, binding, found, closed, _⟩
      simp only [performIssued, withBinding, found]
      exact Engine.worksAlike_setDescriptor closed binding descriptor
  | setTable name table =>
      rcases named asks with ⟨id, binding, found, closed, isClosed⟩
      simp only [performIssued, withBinding, found]
      exact Engine.worksAlike_setTable closed isClosed table
  | addClause name clause =>
      rcases named asks with ⟨id, binding, found, closed, _⟩
      simp only [performIssued, withBinding, found]
      exact Engine.worksAlike_setDescriptor closed binding _
  | refresh name =>
      rcases named asks with ⟨id, binding, found, closed, _⟩
      simp only [performIssued, withBinding, found, Engine.requestBinding_of_closed closed]
      exact ⟨rfl, rfl, rfl⟩
  | fetch name table? descriptor? reaction =>
      rcases named asks with ⟨id, binding, found, closed, isClosed⟩
      simp only [performIssued, withBinding, found]
      let registered := (machine.engine.register reaction).2
      have registers : machine.engine.WorksAlike registered := ⟨rfl, rfl, rfl⟩
      have still : registered.hasClosedBinding id := closed
      have whole := registers.trans (Engine.worksAlike_fetch still isClosed table? descriptor?
        (machine.engine.register reaction).1)
      exact ⟨whole.queue, whole.busy, whole.registry⟩
  | _ => contradiction

theorem worksAlike_performCache {command : CacheCommand Command}
    (asks : (Command.cache command).asks? machine.engine = some owner)
    (closed : machine.engine.hasClosed owner) :
    machine.engine.WorksAlike (machine.performCache command).engine := by
  cases command with
  | request name item reaction? =>
      rcases Option.map_eq_some_iff.mp asks with ⟨⟨id, cache⟩, found, rfl⟩
      have registers : machine.engine.WorksAlike (machine.engine.register? reaction?).2 := by
        cases reaction? <;> exact ⟨rfl, rfl, rfl⟩
      have still : (machine.engine.register? reaction?).2.hasClosedCache id := by
        cases reaction? <;> exact closed
      simp only [performCache, withCache, found]
      split
      · exact ⟨registers.queue, registers.busy, registers.registry⟩
      · exact registers.trans (Engine.worksAlike_trackItem still item _)
  | fetch name =>
      rcases Option.map_eq_some_iff.mp asks with ⟨⟨id, cache⟩, found, rfl⟩
      simp only [performCache, withCache, found, Engine.requestCache_of_closed closed]
      exact ⟨rfl, rfl, rfl⟩
  | _ => contradiction

/-- Whatever is asked of something closed, by a command or an alert, changes nothing of the work. -/
theorem worksAlike_of_asks {activity : Activity} {rest : List Activity} {after : Machine}
    (agenda : machine.agenda = activity :: rest)
    (asks : activity.asks? machine.engine = some owner) (closed : machine.engine.hasClosed owner)
    (stepped : machine.step? = some after) : machine.engine.WorksAlike after.engine := by
  rcases of_step? stepped with ⟨first, others, is, rfl⟩
  rcases List.cons.inj (agenda.symm.trans is) with ⟨rfl, rfl⟩
  cases activity with
  | perform command =>
      cases command with
      | binding command =>
          have same : (Command.binding (command.issued machine.engine.nextId)).asks?
              machine.engine = some owner := by
            cases command <;> exact asks
          let issuing : Machine :=
            Machine.become { machine with agenda := rest } machine.engine.allocate.2
          have issued := @worksAlike_performIssued issuing owner _ same closed
          exact ⟨issued.queue, issued.busy, issued.registry⟩
      | cache command =>
          exact @worksAlike_performCache { machine with agenda := rest } owner _ asks closed
      | _ => contradiction
  | alert watcher table =>
      cases watcher with
      | binding id =>
          rcases Option.some.inj asks with rfl
          simp only [act, alert, become, Engine.requestBinding_of_closed closed]
          exact ⟨rfl, rfl, rfl⟩
      | cache id =>
          rcases Option.some.inj asks with rfl
          simp only [act, alert, become, Engine.requestCache_of_closed closed]
          exact ⟨rfl, rfl, rfl⟩
      | callback callback => contradiction
  | _ => contradiction

/-- A unit of something closed is skipped when it comes up: nothing is run. -/
theorem skips_of_closed {ran clock : Nat} {rest : List Activity} {tasks : List Task}
    {after : Machine} (agenda : machine.agenda = .drain ran none :: rest)
    (queue : machine.engine.queue = .unit owner.id owner.job clock :: tasks)
    (closed : machine.engine.hasClosed owner) (stepped : machine.step? = some after) :
    after.engine = Engine.release { machine.engine with queue := tasks } owner.id ∧
      after.agenda = .drain (ran + 1) none :: rest := by
  rcases of_step? stepped with ⟨activity, others, is, rfl⟩
  rcases List.cons.inj (agenda.symm.trans is) with ⟨rfl, rfl⟩
  have none : Engine.unit? { machine.engine with queue := tasks } owner.id owner.job = none :=
    Engine.unit?_of_closed closed
  simp only [act, drain, queue, runUnit, become, none]
  exact ⟨rfl, rfl⟩

end Machine

end LiveTable
