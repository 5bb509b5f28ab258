import LiveTable.Proofs.Engine.Posts

/-!
# What every operation retains

`Engine.Retains` says of an engine and a later one that callbacks have stayed where they stood or
have gone, that what bindings and caches hold has stayed as it was, and that what is closed
watches nothing.  What has come besides is what the terms let in: callbacks that were numbered
meanwhile, results, and numbers that are made to watch by hand.

Every operation on an engine retains all this, and from one operation to the next it adds up.
-/

set_option autoImplicit false

namespace LiveTable

namespace Engine

variable (terms : Terms)

/-- A number was given out from one engine to a later one, to a callback that stands elsewhere. -/
def Admits (before after : Engine) (number : Nat) : Prop :=
  before.nextId ≤ number ∧ number < after.nextId ∧ terms.joins .elsewhere number

/--
An engine has gone on as another: of callbacks, held results and what is closed it has retained
what it could, and only what the terms let in has come.
-/
structure Retains (before after : Engine) : Prop where
  nextId : before.nextId ≤ after.nextId
  bindings (id : Nat) : Binding.Becomes terms id before.nextId after.nextId
    (before.bindings.get? id) (after.bindings.get? id)
  caches (id : Nat) : ItemCache.Becomes terms id before.nextId after.nextId
    (before.caches.get? id) (after.caches.get? id)
  elsewhere {number : Nat} : after.Elsewhere number →
    before.Elsewhere number ∨ Admits terms before after number
  apart {id : Nat} : before.Apart id → after.Apart id
  unwatched {id : Nat} :
    ¬ terms.watches id → before.Apart id → before.Unwatched id → after.Unwatched id
  numbered : before.listeners.Numbered → after.listeners.Numbered

variable {terms} {engine before after : Engine}

theorem Retains.trans {first middle last : Engine} (early : first.Retains terms middle)
    (late : middle.Retains terms last) : first.Retains terms last where
  nextId := Nat.le_trans early.nextId late.nextId
  bindings id := (early.bindings id).trans (late.bindings id) early.nextId late.nextId
  caches id := (early.caches id).trans (late.caches id) early.nextId late.nextId
  elsewhere stands := by
    rcases late.elsewhere stands with stood | ⟨low, high, joins⟩
    · refine (early.elsewhere stood).imp_right fun ⟨low, high, joins⟩ => ?_
      exact ⟨low, Nat.lt_of_lt_of_le high late.nextId, joins⟩
    · exact .inr ⟨Nat.le_trans early.nextId low, high, joins⟩
  apart := late.apart ∘ early.apart
  unwatched left apart := late.unwatched left (early.apart apart) ∘ early.unwatched left apart
  numbered := late.numbered ∘ early.numbered

/-- What concerns neither bindings nor caches. -/
theorem Retains.of_objects (bindings : after.bindings = before.bindings)
    (caches : after.caches = before.caches) (nextId : before.nextId ≤ after.nextId)
    (elsewhere : ∀ {number}, after.Elsewhere number →
      before.Elsewhere number ∨ Admits terms before after number)
    (unwatched : ∀ {id}, ¬ terms.watches id → before.Apart id → before.Unwatched id →
      after.Unwatched id)
    (numbered : before.listeners.Numbered → after.listeners.Numbered) :
    before.Retains terms after where
  nextId := nextId
  bindings id := bindings ▸ .refl _
  caches id := caches ▸ .refl _
  elsewhere := elsewhere
  apart apart := by
    constructor
    · rw [bindings, caches]
      exact fun held => (apart.binding held).imp_left (Nat.lt_of_lt_of_le · nextId)
    · rw [caches]
      exact fun held => Nat.lt_of_lt_of_le (apart.cache held) nextId
  unwatched := unwatched
  numbered := numbered

/-- What watches no further table lets nothing be watched that is closed. -/
theorem Unwatched.of_fewer {id : Nat} (unwatched : before.Unwatched id)
    (bindings : after.bindings = before.bindings) (caches : after.caches = before.caches)
    (registry : before.registry.tableOf? id = none → after.registry.tableOf? id = none) :
    after.Unwatched id := by
  intro closed
  rw [hasClosedBinding, hasClosedCache, bindings, caches] at closed
  exact registry (unwatched closed)

/-- What concerns neither objects nor who stands elsewhere. -/
theorem Retains.of_same (bindings : after.bindings = before.bindings)
    (caches : after.caches = before.caches) (nextId : before.nextId ≤ after.nextId)
    (registry : after.registry = before.registry) (former : after.former = before.former)
    (listeners : after.listeners = before.listeners) (queue : after.queue = before.queue) :
    before.Retains terms after := by
  apply Retains.of_objects bindings caches nextId
  · rintro number (⟨listens, numbered⟩ | watches | ⟨held, watches⟩ | ⟨waits, called, numbered⟩)
    · exact .inl (.listens (listeners ▸ listens) numbered)
    · exact .inl (.watches (registry ▸ watches))
    · exact .inl (.watched (former ▸ held) watches)
    · exact .inl (.queued (queue ▸ waits) called numbered)
  · exact fun _ _ unwatched => unwatched.of_fewer bindings caches (registry ▸ id)
  · exact fun numbered => listeners ▸ numbered

/-! ## Operations -/

theorem retains_refl (engine : Engine) : engine.Retains terms engine :=
  .of_same rfl rfl (Nat.le_refl _) rfl rfl rfl rfl

theorem retains_allocate (engine : Engine) : engine.Retains terms engine.allocate.2 :=
  .of_same rfl rfl (Nat.le_succ _) rfl rfl rfl rfl

theorem retains_rename (engine : Engine) (name : String) (change : Handles → Handles) :
    engine.Retains terms (engine.rename name change) :=
  .of_same rfl rfl (Nat.le_refl _) rfl rfl rfl rfl

theorem retains_hold (engine : Engine) (held : Held) : engine.Retains terms (engine.hold held) :=
  .of_same rfl rfl (Nat.le_refl _) rfl rfl rfl rfl

/-! ### The queue -/

/-- The callbacks of a task that is queued stand elsewhere, with numbers given out for them. -/
theorem retains_enqueue (engine : Engine) {task : Task} {nextId : Nat}
    (larger : engine.nextId ≤ nextId)
    (joins : ∀ callback ∈ task.callbacks,
      engine.nextId ≤ callback.id ∧ callback.id < nextId ∧ terms.joins .elsewhere callback.id) :
    engine.Retains terms { engine.enqueue task with nextId := nextId } := by
  apply Retains.of_objects
  · rfl
  · rfl
  · exact larger
  · rintro number (⟨listens, numbered⟩ | watches | ⟨held, watches⟩ | ⟨waits, called, rfl⟩)
    · exact .inl (.listens listens numbered)
    · exact .inl (.watches watches)
    · exact .inl (.watched held watches)
    · rcases List.mem_append.mp waits with before | new
      · exact .inl (.queued before called rfl)
      · rw [List.mem_singleton.mp new] at called
        exact .inr (joins _ called)
  · exact fun _ _ unwatched => unwatched
  · exact id

theorem retains_schedule (engine : Engine) (executor : Nat) {job : Job} {nextId : Nat}
    (larger : engine.nextId ≤ nextId)
    (joins : ∀ callback ∈ job.callbacks,
      engine.nextId ≤ callback.id ∧ callback.id < nextId ∧ terms.joins .elsewhere callback.id) :
    engine.Retains terms (schedule { engine with nextId := nextId } executor job).2 := by
  rw [schedule]
  split
  · exact .of_same rfl rfl larger rfl rfl rfl rfl
  · let task : Task := .unit executor job engine.clock.number
    have enqueued : engine.Retains terms { engine.enqueue task with nextId := nextId } :=
      engine.retains_enqueue larger joins
    exact enqueued.trans (.of_same rfl rfl (Nat.le_refl _) rfl rfl rfl rfl)

/-- A unit without callbacks is handed to an executor. -/
theorem retains_scheduleSilent (engine : Engine) (executor : Nat) {job : Job}
    (silent : job.callbacks = []) : engine.Retains terms (engine.schedule executor job).2 :=
  engine.retains_schedule executor (Nat.le_refl _) (silent ▸ List.forall_mem_nil _)

theorem retains_requestBinding (engine : Engine) (id : Nat) :
    engine.Retains terms (engine.requestBinding id).2 := by
  rw [requestBinding]
  split
  · split
    · exact engine.retains_refl
    · exact engine.retains_scheduleSilent id rfl
  · exact engine.retains_refl

theorem retains_requestCache (engine : Engine) (id : Nat) :
    engine.Retains terms (engine.requestCache id).2 := by
  rw [requestCache]
  split
  · split
    · exact engine.retains_refl
    · exact engine.retains_scheduleSilent id rfl
  · exact engine.retains_refl

/-- A task that leaves the queue takes its callbacks with it. -/
theorem retains_dequeue (engine : Engine) {task : Task} {rest : List Task}
    (queue : engine.queue = task :: rest) :
    engine.Retains terms { engine with queue := rest } := by
  apply Retains.of_objects
  · rfl
  · rfl
  · exact Nat.le_refl _
  · rintro number (⟨listens, numbered⟩ | watches | ⟨held, watches⟩ | ⟨waits, called, numbered⟩)
    · exact .inl (.listens listens numbered)
    · exact .inl (.watches watches)
    · exact .inl (.watched held watches)
    · exact .inl (.queued (queue ▸ List.mem_cons_of_mem _ waits) called numbered)
  · exact fun _ _ unwatched => unwatched
  · exact id

theorem retains_foldl_enqueue (engine : Engine) (routines : List Routine) :
    engine.Retains terms
      (routines.foldl (fun engine routine => engine.enqueue (.routine routine)) engine) := by
  induction routines generalizing engine with
  | nil => exact engine.retains_refl
  | cons routine rest ih =>
      have enqueued : engine.Retains terms (engine.enqueue (.routine routine)) :=
        engine.retains_enqueue (Nat.le_refl _) (List.forall_mem_nil _)
      exact enqueued.trans (ih (engine.enqueue (.routine routine)))

theorem retains_executorOf (engine : Engine) (name? : Option String) :
    engine.Retains terms (engine.executorOf name?).2 := by
  rw [executorOf]
  split
  · exact engine.retains_refl
  · exact engine.retains_allocate

theorem retains_submit (engine : Engine) (table : String) (request : Request) :
    engine.Retains terms (engine.submit table request).2 :=
  engine.retains_allocate.trans (retains_scheduleSilent _ engine.nextId rfl)

theorem retains_takeOutcome (engine : Engine) (id : Nat) :
    engine.Retains terms (engine.takeOutcome id).2 :=
  .of_same rfl rfl (Nat.le_refl _) rfl rfl rfl rfl

theorem retains_elapse (engine : Engine) (clock : Nat) (answers : List Answer) :
    engine.Retains terms (engine.elapse clock answers) := by
  rcases engine.elapse_eq clock answers with ⟨now, elapsed⟩
  rw [elapsed]
  exact .of_same rfl rfl (Nat.le_refl _) rfl rfl rfl rfl

theorem retains_transactDirectly (engine : Engine) (mode : AccessMode) (table : String)
    (steps : List OperationStep) :
    engine.Retains terms (engine.transactDirectly mode table steps).2 := by
  let worked : Engine := { engine with store := (engine.store.performAll mode table steps).2 }
  have working : engine.Retains terms worked := .of_same rfl rfl (Nat.le_refl _) rfl rfl rfl rfl
  exact working.trans (worked.retains_elapse _ _)

/-- A unit that has run, and whose executor is freed, has changed none of this. -/
theorem retains_runUnit (engine : Engine) (unit : WorkUnit) (clock executor : Nat) :
    engine.Retains terms ((engine.runUnit unit clock).2.release executor) := by
  rcases (engine.runUnit_eq unit clock).2 with ⟨monitor, now, after⟩
  rw [after]
  exact .of_same rfl rfl (Nat.le_refl _) rfl rfl rfl rfl

/-! ### Listeners and watchers -/

/-- The registry listens without a callback. -/
theorem attach_eq (engine : Engine) :
    ∃ listeners attachment?,
      engine.attach = { engine with listeners := listeners, attachment? := attachment? } ∧
        (engine.listeners.Numbered → listeners.Numbered) ∧
        ∀ callback, .callback callback ∈ listeners.all →
          .callback callback ∈ engine.listeners.all := by
  rw [attach]
  split
  · exact ⟨engine.listeners, engine.attachment?, rfl, id, fun _ listens => listens⟩
  · refine ⟨_, _, rfl, fun numbered => numbered.add _, fun callback listens => ?_⟩
    rcases Subscribers.mem_all_add.mp listens with before | other
    · exact before
    · contradiction

/--
A watcher comes.  Its callback, if it has one, has a number that was given out for it; and what
it watches for is not closed, unless it is made to watch by hand.
-/
theorem retains_watch (engine : Engine) {id nextId : Nat} (larger : engine.nextId ≤ nextId)
    (table : String) {watcher : Watcher}
    (joins : ∀ number, watcher.calls number →
      engine.nextId ≤ number ∧ number < nextId ∧ terms.joins .elsewhere number)
    (mayWatch : ¬ terms.watches id → engine.Apart id →
      ¬ (engine.hasClosedBinding id ∨ engine.hasClosedCache id)) :
    engine.Retains terms (watch { engine with nextId := nextId } id table watcher) := by
  rcases attach_eq { engine with nextId := nextId } with
    ⟨listeners, attachment?, attached, numbering, fewer⟩
  rw [watch, attached]
  apply Retains.of_objects
  · rfl
  · rfl
  · exact larger
  · rintro number (⟨listens, numbered⟩ | watches | ⟨held, watches⟩ | ⟨waits, called, numbered⟩)
    · exact .inl (.listens (fewer _ listens) numbered)
    · rcases watches with ⟨sought, entry, listed, calls⟩
      rcases Registry.of_mem_entriesOf_watch listed with rfl | before
      · exact .inr (joins number calls)
      · exact .inl (.watches ⟨sought, entry, before, calls⟩)
    · exact .inl (.watched held watches)
    · exact .inl (.queued waits called numbered)
  · intro sought left apart unwatched closed
    have before : engine.registry.tableOf? sought = none := unwatched closed
    rw [Registry.tableOf?_watch]
    split
    · next same => exact absurd closed (same ▸ mayWatch (same ▸ left) (same ▸ apart))
    · exact before
  · exact numbering

/-- A binding or a cache watches its table as long as it is not closed. -/
theorem retains_watchObject (engine : Engine) {id : Nat} (table : String) {watcher : Watcher}
    (silent : ∀ number, watcher.calls number = false)
    (isOpen : engine.Apart id → ¬ (engine.hasClosedBinding id ∨ engine.hasClosedCache id)) :
    engine.Retains terms (engine.watch id table watcher) := by
  apply engine.retains_watch (Nat.le_refl _) table
  · intro number calls
    rw [silent] at calls
    contradiction
  · exact fun _ => isOpen

theorem retains_leave (engine : Engine) (id : Nat) : engine.Retains terms (engine.leave id) := by
  apply Retains.of_objects
  · rfl
  · rfl
  · exact Nat.le_refl _
  · rintro number (⟨listens, numbered⟩ | watches | ⟨held, watches⟩ | ⟨waits, called, numbered⟩)
    · exact .inl (.listens listens numbered)
    · rcases watches with ⟨sought, entry, listed, calls⟩
      exact .inl (.watches ⟨sought, entry, Registry.of_mem_entriesOf_remove listed, calls⟩)
    · exact .inl (.watched held watches)
    · exact .inl (.queued waits called numbered)
  · intro sought _ _ unwatched
    have bindings : (engine.leave id).bindings = engine.bindings := rfl
    apply unwatched.of_fewer bindings rfl
    intro none
    change (engine.registry.remove id).tableOf? sought = _
    rw [Registry.tableOf?_remove, none, ite_self]
  · exact fun numbered => numbered

/-- Listeners go, or one comes whose number was given out for it. -/
theorem retains_listeners (engine : Engine) {listeners : Subscribers Listener} {nextId : Nat}
    (larger : engine.nextId ≤ nextId)
    (joins : ∀ callback, .callback callback ∈ listeners.all →
      .callback callback ∈ engine.listeners.all ∨
        engine.nextId ≤ callback.id ∧ callback.id < nextId ∧
          terms.joins .elsewhere callback.id)
    (numbered : engine.listeners.Numbered → listeners.Numbered) :
    engine.Retains terms { engine with listeners := listeners, nextId := nextId } := by
  apply Retains.of_objects
  · rfl
  · rfl
  · exact larger
  · rintro number (⟨listens, rfl⟩ | watches | ⟨held, watches⟩ | ⟨waits, called, numbered⟩)
    · exact (joins _ listens).imp_left (.listens · rfl)
    · exact .inl (.watches watches)
    · exact .inl (.watched held watches)
    · exact .inl (.queued waits called numbered)
  · exact fun _ _ unwatched => unwatched
  · exact numbered

theorem retains_detach (engine : Engine) (attachment? : Option Nat) :
    engine.Retains terms (engine.detach attachment?) := by
  cases attachment? with
  | none => exact engine.retains_refl
  | some id =>
      exact engine.retains_listeners (Nat.le_refl _)
        (fun _ listens => .inl (Subscribers.of_mem_all_remove listens))
        fun numbered => numbered.remove id

theorem not_names_empty (number : Nat) : ¬ Registry.Names .empty number := by
  rintro ⟨table, entry, listed, _⟩
  contradiction

/-- Nobody watches a table any more. -/
theorem retains_clear (engine : Engine) (attachment? : Option Nat) (generation : Nat) :
    engine.Retains terms { engine with
      registry := .empty
      attachment? := attachment?
      generation := generation } := by
  apply Retains.of_objects
  · rfl
  · rfl
  · exact Nat.le_refl _
  · rintro number (⟨listens, numbered⟩ | watches | ⟨held, watches⟩ | ⟨waits, called, numbered⟩)
    · exact .inl (.listens listens numbered)
    · exact absurd watches (not_names_empty number)
    · exact .inl (.watched held watches)
    · exact .inl (.queued waits called numbered)
  · exact fun _ _ unwatched => unwatched.of_fewer rfl rfl fun _ => rfl
  · exact id

/-- Former registries are forgotten, or the present one becomes one of them. -/
theorem retains_former (engine : Engine) {former : OrderedMap Nat FormerRegistry}
    (known : ∀ {generation held}, former.get? generation = some held →
      engine.former.get? generation = some held ∨ held.registry = engine.registry) :
    engine.Retains terms { engine with former := former } := by
  apply Retains.of_objects
  · rfl
  · rfl
  · exact Nat.le_refl _
  · rintro number (⟨listens, numbered⟩ | watches | ⟨held, watches⟩ | ⟨waits, called, numbered⟩)
    · exact .inl (.listens listens numbered)
    · exact .inl (.watches watches)
    · rcases known held with before | same
      · exact .inl (.watched before watches)
      · exact .inl (.watches (same ▸ watches))
    · exact .inl (.queued waits called numbered)
  · exact fun _ _ unwatched => unwatched
  · exact id

theorem retains_renewRegistry (engine : Engine) :
    engine.Retains terms engine.renewRegistry := by
  simp only [renewRegistry]
  split
  · refine (engine.retains_former ?_).trans (retains_clear _ none _)
    intro generation held
    rw [OrderedMap.get?_insert]
    split
    · exact fun same => .inr (Option.some.inj same ▸ rfl)
    · exact .inl
  · exact (engine.retains_detach engine.attachment?).trans (retains_clear _ none _)

/-! ### Bindings -/

theorem hasClosedBinding_of_held {id : Nat} {binding : Binding}
    (held : engine.bindings.get? id = some binding) :
    engine.hasClosedBinding id = binding.isClosed := by
  rw [hasClosedBinding, held, Option.any_some]

theorem hasClosedBinding_modifyBinding (engine : Engine) (id sought : Nat)
    (change : Binding → Binding) :
    (engine.modifyBinding id change).hasClosedBinding sought =
      if sought = id then (engine.bindings.get? sought).any fun binding => (change binding).isClosed
      else engine.hasClosedBinding sought := by
  rw [hasClosedBinding, get?_modifyBinding]
  split
  · exact Option.any_map ..
  · rfl

/-- A binding changes, and is closed by that only if it watches nothing. -/
theorem retains_changeBinding (engine : Engine) (id : Nat) {nextId : Nat}
    (larger : engine.nextId ≤ nextId) {change : Binding → Binding}
    (becomes : ∀ binding, engine.bindings.get? id = some binding →
      Binding.Becomes terms id engine.nextId nextId (some binding) (some (change binding)))
    (mayClose : engine.registry.tableOf? id = none ∨
      ∀ binding, (change binding).isClosed = binding.isClosed) :
    engine.Retains terms (modifyBinding { engine with nextId := nextId } id change) where
  nextId := larger
  numbered numbered := numbered
  bindings sought := by
    rw [get?_modifyBinding]
    split
    · next same =>
        subst same
        change Binding.Becomes terms sought engine.nextId nextId (engine.bindings.get? sought)
          ((engine.bindings.get? sought).map change)
        cases held : engine.bindings.get? sought with
        | none => exact .refl _
        | some binding => exact becomes binding held
    · exact .refl _
  caches sought := .refl _
  elsewhere
    | .listens listens numbered => .inl (.listens listens numbered)
    | .watches watches => .inl (.watches watches)
    | .watched held watches => .inl (.watched held watches)
    | .queued waits called numbered => .inl (.queued waits called numbered)
  apart {sought} apart := by
    constructor
    · rw [get?_modifyBinding]
      intro held
      have before : (engine.bindings.get? sought).isSome := by
        split at held
        · exact (Option.isSome_map ..).symm.trans held
        · exact held
      exact (apart.binding before).imp_left (Nat.lt_of_lt_of_le · larger)
    · exact fun held => Nat.lt_of_lt_of_le (apart.cache held) larger
  unwatched {sought} _ _ unwatched closed := by
    change engine.registry.tableOf? sought = none
    rw [hasClosedBinding_modifyBinding] at closed
    split at closed
    · next same =>
        rcases mayClose with none | stays
        · exact same ▸ none
        · simp only [stays] at closed
          exact unwatched closed
    · exact unwatched closed

theorem retains_closeBinding (engine : Engine) (id : Nat) :
    engine.Retains terms (engine.closeBinding id) := by
  rw [closeBinding]
  split
  · exact engine.retains_refl
  · split
    · exact engine.retains_refl
    · refine (engine.retains_leave id).trans ?_
      apply retains_changeBinding (engine.leave id) id (Nat.le_refl _)
      · intro binding _
        exact {
          held := fun _ => rfl
          consumers := .of_sublist (List.nil_sublist _)
          fetchers := .of_sublist (List.nil_sublist _)
          closed := fun _ => rfl
          emptied := fun _ => .inr (List.forall_mem_nil _)
          value := fun _ => rfl
          version := fun _ => rfl }
      · change (engine.registry.remove id).tableOf? id = none ∨ _
        rw [Registry.tableOf?_remove, if_pos rfl]
        exact .inl rfl

theorem retains_setDescriptor (engine : Engine) (id : Nat) (binding : Binding)
    (descriptor : Descriptor) :
    engine.Retains terms (engine.setDescriptor id binding descriptor).2 := by
  rw [setDescriptor]
  split
  · exact engine.retains_refl
  · refine Retains.trans ?_ (retains_requestBinding _ id)
    exact engine.retains_changeBinding id (Nat.le_refl _)
      (fun _ _ => .of_joins (.refl _) (.refl _) rfl rfl rfl) (.inr fun _ => rfl)

/-- A binding that moves to another table watches it, unless it is closed. -/
theorem retains_setTable (engine : Engine) {id : Nat} {binding former : Binding}
    (held : engine.bindings.get? id = some former) (same : former.isClosed = binding.isClosed)
    (table : String) : engine.Retains terms (engine.setTable id binding table).2 := by
  rw [setTable]
  split
  · exact engine.retains_refl
  · let moved := engine.modifyBinding id fun binding => { binding with table := table }
    have moving : engine.Retains terms moved :=
      engine.retains_changeBinding id (Nat.le_refl _)
        (fun _ _ => .of_joins (.refl _) (.refl _) rfl rfl rfl) (.inr fun _ => rfl)
    dsimp only
    split
    · exact moving.trans (moved.retains_requestBinding id)
    · next isOpen =>
        refine (moving.trans (moved.retains_watchObject table (fun _ => rfl) ?_)).trans
          (retains_requestBinding _ id)
        have heldMoved : moved.bindings.get? id = some { former with table := table } := by
          rw [get?_modifyBinding, if_pos rfl, held]
          rfl
        intro apart
        have noCache := (apart.binding (heldMoved ▸ rfl)).2
        rw [hasClosedBinding_of_held heldMoved, hasClosedCache, noCache]
        simp [same, isOpen]

/-- A fetch lets the callback that was registered for it wait, or does nothing. -/
theorem retains_fetch (engine : Engine) {id : Nat} {binding : Binding}
    (held : engine.bindings.get? id = some binding) (table? : Option String)
    (descriptor? : Option Descriptor) (reaction : Reaction Command)
    (joins : terms.joins (.fetcher id) engine.nextId) :
    engine.Retains terms
      ((engine.register reaction).2.fetch id binding table? descriptor?
        (engine.register reaction).1).2 := by
  rw [fetch]
  dsimp only
  split
  · exact engine.retains_allocate
  · let change : Binding → Binding := fun former =>
      { former with
        waiting := former.waiting ++ [(engine.register reaction).1]
        descriptor := (descriptor?.filter (!binding.descriptor.same ·)).getD former.descriptor }
    let changed : Engine := (engine.register reaction).2.modifyBinding id change
    have waits : engine.Retains terms changed := by
      apply engine.retains_changeBinding id (Nat.le_succ _)
      · intro former _
        have joined : Binding.fetchersOf (some (change former)) =
            Binding.fetchersOf (some former) ++ [engine.nextId] := List.map_append
        refine .of_joins (.refl _) ?_ rfl rfl rfl
        rw [joined]
        exact .snoc _ (Nat.le_refl _) (Nat.lt_succ_self _) joins
      · exact .inr fun _ => rfl
    have heldChanged : changed.bindings.get? id = some (change binding) := by
      change ((engine.register reaction).2.modifyBinding id change).bindings.get? id = _
      rw [get?_modifyBinding, if_pos rfl]
      change (engine.bindings.get? id).map change = _
      rw [held, Option.map_some]
    split
    · exact waits.trans (changed.retains_setTable heldChanged rfl _)
    · exact waits.trans (changed.retains_requestBinding id)

/-- Somebody subscribes to a binding, behind its other consumers. -/
theorem retains_subscribe (engine : Engine) {id : Nat} {binding : Binding}
    (held : engine.bindings.get? id = some binding) (reaction : Reaction Command)
    (joins : terms.joins (.consumer id) engine.nextId) :
    engine.Retains terms
      ((engine.register reaction).2.modifyBinding id fun former =>
        { former with consumers := (binding.consumers.add (engine.register reaction).1).2 }) := by
  apply engine.retains_changeBinding id (Nat.le_succ _)
  · intro former heldFormer
    rw [held] at heldFormer
    rcases Option.some.inj heldFormer with rfl
    refine .of_joins ?_ (.refl _) rfl rfl rfl
    have joined : Binding.consumersOf
          (some { binding with
            consumers := (binding.consumers.add (engine.register reaction).1).2 }) =
        Binding.consumersOf (some binding) ++ [engine.nextId] := by
      simp [Binding.consumersOf, Subscribers.add, Subscribers.all, register, allocate]
    rw [joined]
    exact .snoc _ (Nat.le_refl _) (Nat.lt_succ_self _) joins
  · exact .inr fun _ => rfl

theorem sublist_remove {Subscriber : Type} (subscribers : Subscribers Subscriber) (number : Nat) :
    (subscribers.remove number).all.Sublist subscribers.all :=
  List.filter_sublist.map Prod.snd

theorem retains_unsubscribe (engine : Engine) (id number : Nat) :
    engine.Retains terms
      (engine.modifyBinding id fun binding =>
        { binding with consumers := binding.consumers.remove number }) := by
  apply engine.retains_changeBinding id (Nat.le_refl _)
  · intro binding _
    refine .of_joins (.of_sublist ?_) (.refl _) rfl rfl rfl
    exact (sublist_remove binding.consumers number).map Callback.id
  · exact .inr fun _ => rfl

/-- The next number is nobody's. -/
theorem Apart.unheld (fresh : engine.Apart engine.nextId) :
    engine.bindings.get? engine.nextId = none ∧ engine.caches.get? engine.nextId = none := by
  constructor
  · cases held : engine.bindings.get? engine.nextId with
    | none => rfl
    | some _ => exact absurd (fresh.binding (held ▸ rfl)).1 (Nat.lt_irrefl _)
  · cases held : engine.caches.get? engine.nextId with
    | none => rfl
    | some _ => exact absurd (fresh.cache (held ▸ rfl)) (Nat.lt_irrefl _)

theorem retains_createBinding (engine : Engine) (fresh : engine.Apart engine.nextId)
    (table : String)
    (descriptor : Descriptor) :
    engine.Retains terms (engine.createBinding table descriptor).2 := by
  let id := engine.nextId
  let made : Engine :=
    { engine with
      nextId := id + 1
      bindings := engine.bindings.insert id (.create table descriptor) }
  rcases fresh.unheld with ⟨noBinding, noCache⟩
  have closedMade (sought : Nat) :
      made.hasClosedBinding sought = engine.hasClosedBinding sought := by
    rw [hasClosedBinding, get?_insertBinding]
    split
    · next same => rw [same, hasClosedBinding, noBinding]; rfl
    · rfl
  have making : engine.Retains terms made := by
    refine {
      nextId := Nat.le_succ _
      bindings := fun sought => ?_
      caches := fun _ => .refl _
      elsewhere := ?_
      apart := fun {sought} apart => ?_
      unwatched := fun {sought} _ _ unwatched closed => ?_
      numbered := fun numbered => numbered }
    · rw [get?_insertBinding]
      split
      · next same =>
          rw [same, noBinding]
          exact {
            held := fun _ => rfl
            consumers := .refl _
            fetchers := .refl _
            closed := fun closed => nomatch closed
            emptied := fun _ => .inr (List.forall_mem_nil _)
            value := fun _ => rfl
            version := fun _ => rfl }
      · exact .refl _
    · rintro number (⟨listens, numbered⟩ | watches | ⟨held, watches⟩ | ⟨waits, called, numbered⟩)
      · exact .inl (.listens listens numbered)
      · exact .inl (.watches watches)
      · exact .inl (.watched held watches)
      · exact .inl (.queued waits called numbered)
    · constructor
      · rw [get?_insertBinding]
        split
        · next same =>
            intro _
            rw [same]
            exact ⟨Nat.lt_succ_self _, noCache⟩
        · exact fun held => (apart.binding held).imp_left (Nat.lt_of_lt_of_le · (Nat.le_succ _))
      · exact fun held => Nat.lt_of_lt_of_le (apart.cache held) (Nat.le_succ _)
    · rw [closedMade] at closed
      exact unwatched closed
  have watching : made.Retains terms (made.watch id table (.binding id)) := by
    apply made.retains_watchObject table fun _ => rfl
    rintro - (closed | closed)
    · rw [closedMade, hasClosedBinding, noBinding] at closed
      contradiction
    · rw [hasClosedCache] at closed
      change (engine.caches.get? id).any _ = true at closed
      rw [noCache] at closed
      contradiction
  exact (making.trans watching).trans (retains_requestBinding _ id)

/-! ### Caches -/

/-- A cache changes, and is closed by that only if it watches nothing. -/
theorem retains_changeCache (engine : Engine) (id : Nat) {nextId : Nat}
    (larger : engine.nextId ≤ nextId) {change : ItemCache → ItemCache}
    (becomes : ∀ cache, engine.caches.get? id = some cache →
      ItemCache.Becomes terms id engine.nextId nextId (some cache) (some (change cache)))
    (mayClose : engine.registry.tableOf? id = none ∨
      ∀ cache, (change cache).isClosed = cache.isClosed) :
    engine.Retains terms (modifyCache { engine with nextId := nextId } id change) where
  nextId := larger
  numbered numbered := numbered
  bindings sought := .refl _
  caches sought := by
    rw [get?_modifyCache]
    split
    · next same =>
        subst same
        change ItemCache.Becomes terms sought engine.nextId nextId (engine.caches.get? sought)
          ((engine.caches.get? sought).map change)
        cases held : engine.caches.get? sought with
        | none => exact .refl _
        | some cache => exact becomes cache held
    · exact .refl _
  elsewhere
    | .listens listens numbered => .inl (.listens listens numbered)
    | .watches watches => .inl (.watches watches)
    | .watched held watches => .inl (.watched held watches)
    | .queued waits called numbered => .inl (.queued waits called numbered)
  apart {sought} apart := by
    have same : ((modifyCache { engine with nextId := nextId } id change).caches.get? sought).isSome
        = (engine.caches.get? sought).isSome := by
      rw [get?_modifyCache]
      split
      · exact Option.isSome_map ..
      · rfl
    constructor
    · intro held
      rcases apart.binding held with ⟨below, noCache⟩
      refine ⟨Nat.lt_of_lt_of_le below larger, ?_⟩
      rw [← Option.not_isSome_iff_eq_none, same, noCache]
      exact Bool.false_ne_true
    · rw [same]
      exact fun held => Nat.lt_of_lt_of_le (apart.cache held) larger
  unwatched {sought} _ _ unwatched closed := by
    change engine.registry.tableOf? sought = none
    rw [hasClosedCache, get?_modifyCache] at closed
    split at closed
    · next same =>
        rcases mayClose with none | stays
        · exact same ▸ none
        · simp only [Option.any_map, stays] at closed
          exact unwatched closed
    · exact unwatched closed

theorem retains_closeCache (engine : Engine) (id : Nat) :
    engine.Retains terms (engine.closeCache id) := by
  rw [closeCache]
  split
  · exact engine.retains_refl
  · split
    · exact engine.retains_refl
    · refine (engine.retains_leave id).trans ?_
      apply retains_changeCache (engine.leave id) id (Nat.le_refl _)
      · intro cache _
        exact {
          held := fun _ => rfl
          followers := .of_sublist (List.nil_sublist _)
          requesters := .of_sublist (List.nil_sublist _)
          closed := fun _ => rfl
          emptied := fun _ => .inr (List.forall_mem_nil _)
          items := fun _ => rfl
          requests := fun _ _ _ => .inr ⟨rfl, rfl⟩
          idField := fun _ named => named
          tracked := fun _ tracked => tracked }
      · change (engine.registry.remove id).tableOf? id = none ∨ _
        rw [Registry.tableOf?_remove, if_pos rfl]
        exact .inl rfl

/-- An id is tracked from now on, and a callback that is registered for it may come to wait. -/
theorem retains_trackItem (engine : Engine) (id : Nat) (item : Value)
    (reaction? : Option (Reaction Command))
    (joins : reaction?.isSome → terms.joins (.requester id) engine.nextId) :
    engine.Retains terms
      ((engine.register? reaction?).2.trackItem id item (engine.register? reaction?).1) := by
  refine Retains.trans ?_ (retains_requestCache _ id)
  cases reaction? with
  | none =>
      apply engine.retains_changeCache id (Nat.le_refl _)
      · intro cache _
        have requests : ItemCache.requestsOf (some { cache with
              tracked := cache.tracked.add item
              waiting := cache.waiting ++ [] }) = ItemCache.requestsOf (some cache) ++ [] :=
          List.map_append
        exact .of_joins (.refl _) requests (Nat.zero_le _) (List.forall_mem_nil _) rfl rfl rfl
          fun _ => ValueSet.contains_add_of_contains item
      · exact .inr fun _ => rfl
  | some reaction =>
      apply engine.retains_changeCache id (Nat.le_succ _)
      · intro cache _
        have requests : ItemCache.requestsOf (some { cache with
              tracked := cache.tracked.add item
              waiting := cache.waiting ++ [(item, (engine.register reaction).1)] }) =
            ItemCache.requestsOf (some cache) ++ [(item, engine.nextId)] :=
          List.map_append
        refine .of_joins (.refl _) requests (Nat.le_refl _) ?_ rfl rfl rfl
          fun _ => ValueSet.contains_add_of_contains item
        exact List.forall_mem_singleton.mpr
          ⟨Nat.le_refl _, Nat.lt_succ_self _, joins rfl⟩
      · exact .inr fun _ => rfl

theorem retains_track (engine : Engine) (id : Nat) (ids : List Value) :
    engine.Retains terms
      (engine.modifyCache id fun cache => { cache with tracked := cache.tracked.addAll ids }) := by
  apply engine.retains_changeCache id (Nat.le_refl _)
  · intro cache _
    exact .of_joins (.refl _) (List.append_nil _).symm (Nat.zero_le _) (List.forall_mem_nil _)
      rfl rfl rfl fun _ => ValueSet.contains_addAll_of_contains ids
  · exact .inr fun _ => rfl

/-- Somebody subscribes to a cache, behind its other consumers. -/
theorem retains_subscribeItems (engine : Engine) {id : Nat} {cache : ItemCache}
    (held : engine.caches.get? id = some cache) (reaction : Reaction Command)
    (joins : terms.joins (.follower id) engine.nextId) :
    engine.Retains terms
      ((engine.register reaction).2.modifyCache id fun former =>
        { former with consumers := (cache.consumers.add (engine.register reaction).1).2 }) := by
  apply engine.retains_changeCache id (Nat.le_succ _)
  · intro former heldFormer
    rw [held] at heldFormer
    rcases Option.some.inj heldFormer with rfl
    refine .of_joins ?_ (List.append_nil _).symm (Nat.zero_le _) (List.forall_mem_nil _)
      rfl rfl rfl fun _ tracked => tracked
    have joined : ItemCache.followersOf
          (some { cache with
            consumers := (cache.consumers.add (engine.register reaction).1).2 }) =
        ItemCache.followersOf (some cache) ++ [engine.nextId] := by
      simp [ItemCache.followersOf, Subscribers.add, Subscribers.all, register, allocate]
    rw [joined]
    exact .snoc _ (Nat.le_refl _) (Nat.lt_succ_self _) joins
  · exact .inr fun _ => rfl

theorem retains_unsubscribeItems (engine : Engine) (id number : Nat) :
    engine.Retains terms
      (engine.modifyCache id fun cache =>
        { cache with consumers := cache.consumers.remove number }) := by
  apply engine.retains_changeCache id (Nat.le_refl _)
  · intro cache _
    refine .of_joins (.of_sublist ?_) (List.append_nil _).symm (Nat.zero_le _)
      (List.forall_mem_nil _) rfl rfl rfl fun _ tracked => tracked
    exact (sublist_remove cache.consumers number).map Callback.id
  · exact .inr fun _ => rfl

theorem retains_createCache (engine : Engine) (fresh : engine.Apart engine.nextId)
    (table idField : String) : engine.Retains terms (engine.createCache table idField).2 := by
  let id := engine.nextId
  let made : Engine :=
    { engine with
      nextId := id + 1
      caches := engine.caches.insert id (.create table idField) }
  rcases fresh.unheld with ⟨noBinding, noCache⟩
  have closedMade (sought : Nat) :
      made.hasClosedCache sought = engine.hasClosedCache sought := by
    rw [hasClosedCache, get?_insertCache]
    split
    · next same => rw [same, hasClosedCache, noCache]; rfl
    · rfl
  have making : engine.Retains terms made := by
    refine {
      nextId := Nat.le_succ _
      bindings := fun _ => .refl _
      caches := fun sought => ?_
      elsewhere := ?_
      apart := fun {sought} apart => ?_
      unwatched := fun {sought} _ _ unwatched closed => ?_
      numbered := fun numbered => numbered }
    · rw [get?_insertCache]
      split
      · next same =>
          rw [same, noCache]
          exact {
            held := fun _ => rfl
            followers := .refl _
            requesters := .refl _
            closed := fun closed => nomatch closed
            emptied := fun _ => .inr (List.forall_mem_nil _)
            items := fun _ => rfl
            requests := fun _ _ _ => .inl rfl
            idField := fun _ named => nomatch named
            tracked := fun _ tracked => nomatch tracked }
      · exact .refl _
    · rintro number (⟨listens, numbered⟩ | watches | ⟨held, watches⟩ | ⟨waits, called, numbered⟩)
      · exact .inl (.listens listens numbered)
      · exact .inl (.watches watches)
      · exact .inl (.watched held watches)
      · exact .inl (.queued waits called numbered)
    · constructor
      · intro held
        rcases apart.binding held with ⟨below, unheld⟩
        have other : sought ≠ id := Nat.ne_of_lt below
        rw [get?_insertCache, if_neg other]
        exact ⟨Nat.lt_of_lt_of_le below (Nat.le_succ _), unheld⟩
      · rw [get?_insertCache]
        split
        · next same => exact fun _ => same ▸ Nat.lt_succ_self _
        · exact fun held => Nat.lt_of_lt_of_le (apart.cache held) (Nat.le_succ _)
    · rw [closedMade] at closed
      exact unwatched closed
  have watching : made.Retains terms (made.watch id table (.cache id)) := by
    apply made.retains_watchObject table fun _ => rfl
    rintro - (closed | closed)
    · rw [hasClosedBinding] at closed
      change (engine.bindings.get? id).any _ = true at closed
      rw [noBinding] at closed
      contradiction
    · rw [closedMade, hasClosedCache, noCache] at closed
      contradiction
  exact making.trans watching

/-! ### Closing and letting go -/

theorem retains_closeObject (engine : Engine) (id : Nat) :
    engine.Retains terms (engine.closeObject id) :=
  (engine.retains_closeBinding id).trans (retains_closeCache _ id)

theorem retains_discard (engine : Engine) (id : Nat) :
    engine.Retains terms (engine.discard id) := by
  rw [discard]
  split
  · exact .of_same rfl rfl (Nat.le_refl _) rfl rfl rfl rfl
  · exact engine.retains_closeObject id

theorem retains_settleGivenUp (engine : Engine) (held : Held) :
    engine.Retains terms (engine.settleGivenUp held) := by
  cases held with
  | registry generation =>
      rw [settleGivenUp]
      split
      · next former _ =>
          have same : (engine.detach former.attachment?).former = engine.former := by
            cases former.attachment? <;> rfl
          refine (engine.retains_detach former.attachment?).trans (retains_former _ ?_)
          intro sought found
          rw [← same, OrderedMap.get?_erase]
          split
          · intro erased
            contradiction
          · exact .inl
      · exact engine.retains_refl
  | object id =>
      rw [settleGivenUp]
      split
      · exact (engine.retains_closeObject id).trans
          (.of_same rfl rfl (Nat.le_refl _) rfl rfl rfl rfl)
      · exact engine.retains_refl

theorem retains_letGo (engine : Engine) (held : Held) :
    engine.Retains terms (engine.letGo held) := by
  let lessHeld : Engine := { engine with holds := engine.holds.erase held }
  have less : engine.Retains terms lessHeld :=
    .of_same rfl rfl (Nat.le_refl _) rfl rfl rfl rfl
  simp only [letGo]
  split
  · exact less
  · exact less.trans (lessHeld.retains_settleGivenUp held)

theorem retains_elim (engine : Engine) {operation : Nat → Engine}
    (retains : ∀ id, engine.Retains terms (operation id)) (id? : Option Nat) :
    engine.Retains terms (id?.elim engine operation) := by
  cases id? with
  | none => exact engine.retains_refl
  | some id => exact retains id

theorem retains_drop (engine : Engine) (name : String) :
    engine.Retains terms (engine.drop name) := by
  let unnamed : Engine := { engine with names := engine.names.erase name }
  have unnaming : engine.Retains terms unnamed :=
    .of_same rfl rfl (Nat.le_refl _) rfl rfl rfl rfl
  exact ((unnaming.trans (retains_elim _ (retains_leave _) _)).trans
    (retains_elim _ (retains_discard _) _)).trans (retains_elim _ (retains_discard _) _)

end Engine

end LiveTable
