import LiveTable.Engine.Binding
import LiveTable.Engine.Pending
import LiveTable.Proofs.Engine.Order

/-!
# Operations on engines

Every operation that a live command comes to lets a regular engine proceed.  The
operations that change what a binding asks all end with a request: from then on a unit
of the binding waits, whether it is queued now or was queued before.
-/

set_option autoImplicit false

namespace LiveTable

/-! ## Subscribers -/

namespace Subscribers

variable {Subscriber : Type} {subscribers : Subscribers Subscriber} {subscriber added : Subscriber}

theorem mem_all_add :
    subscriber ∈ (subscribers.add added).2.all ↔
      subscriber ∈ subscribers.all ∨ subscriber = added := by
  simp [add, all]

theorem of_mem_all_remove {number : Nat}
    (member : subscriber ∈ (subscribers.remove number).all) :
    subscriber ∈ subscribers.all := by
  rcases List.mem_map.mp member with ⟨entry, kept, rfl⟩
  exact List.mem_map_of_mem (List.mem_filter.mp kept).1

/-- Subscribers stand in the order of their numbers, which were given out before. -/
structure Numbered (subscribers : Subscribers Subscriber) : Prop where
  ascending : subscribers.ids.Pairwise (· < ·)
  given : ∀ id ∈ subscribers.ids, id < subscribers.nextId

theorem empty_numbered : (empty : Subscribers Subscriber).Numbered :=
  ⟨.nil, List.forall_mem_nil _⟩

theorem Numbered.add (numbered : subscribers.Numbered) (subscriber : Subscriber) :
    (subscribers.add subscriber).2.Numbered := by
  have ids : (subscribers.add subscriber).2.ids = subscribers.ids ++ [subscribers.nextId] := by
    simp [Subscribers.add, Subscribers.ids]
  constructor
  · rw [ids, List.pairwise_append]
    refine ⟨numbered.ascending, List.pairwise_singleton _ _, fun id member last isLast => ?_⟩
    rw [List.mem_singleton.mp isLast]
    exact numbered.given id member
  · rw [ids]
    refine List.forall_mem_append.mpr ⟨fun id member => ?_, ?_⟩
    · exact Nat.lt_succ_of_lt (numbered.given id member)
    · exact List.forall_mem_singleton.mpr (Nat.lt_succ_self _)

theorem Numbered.remove (numbered : subscribers.Numbered) (number : Nat) :
    (subscribers.remove number).Numbered := by
  have fewer : (subscribers.remove number).ids.Sublist subscribers.ids :=
    List.filter_sublist.map _
  exact ⟨numbered.ascending.sublist fewer, fun id member => numbered.given id (fewer.mem member)⟩

end Subscribers

namespace Engine

variable {engine : Engine}

/-- The binding that a name stands for is held under its number. -/
theorem held_of_binding?
    {name : String} {id : Nat} {binding : Binding}
    (found : engine.binding? name = some (id, binding)) :
    engine.bindings.get? id = some binding := by
  simp only [binding?, Option.bind_eq_bind, Option.bind_eq_some_iff] at found
  rcases found with ⟨number, _, found, held, same⟩
  rcases Option.some.inj same with ⟨rfl, rfl⟩
  exact held

/-! ## Requests -/

theorem proceeds_schedule
    {executor : Nat} {job : Job}
    (live : ∀ clock, (Task.unit executor job clock).Live)
    (numbered : engine.Regular → executor < engine.nextId)
    (own : job = .binding ∨ (engine.Regular → engine.bindings.get? executor = none)) :
    engine.Proceeds (engine.schedule executor job).2 := by
  intro regular
  rw [schedule]
  split
  · exact proceeds_refl engine regular
  · have kept : ∀ task ∈ engine.queue,
        task ∈ engine.queue ++ [.unit executor job engine.clock.number] :=
      fun task member => List.mem_append_left _ member
    refine ⟨⟨?_, ?_⟩, .of_bindings (.of_unchanged rfl rfl) rfl kept rfl⟩
    · refine { regular.orderly with busy := ?_, queued := ?_, tasks := ?_ }
      · intro id busy
        rcases List.mem_cons.mp busy with rfl | before
        · exact numbered regular
        · exact regular.orderly.busy before
      · intro id binding held busy
        rcases List.mem_cons.mp busy with rfl | before
        · rcases own with rfl | missing
          · exact ⟨_, List.mem_append_right _ List.mem_cons_self⟩
          · have heldBefore : engine.bindings.get? id = some binding := held
            rw [missing regular] at heldBefore
            contradiction
        · exact (regular.orderly.queued held before).mono kept
      · intro task member
        rcases List.mem_append.mp member with before | new
        · exact regular.orderly.tasks task before
        · rw [List.mem_singleton.mp new]
          exact live _
    · intro id binding held isOpen
      exact ⟨(regular.watchful held isOpen).attached, (regular.watchful held isOpen).listed⟩

theorem requestBinding_bindings (engine : Engine) (id : Nat) :
    (engine.requestBinding id).2.bindings = engine.bindings := by
  rw [requestBinding]
  split
  · split
    · rfl
    · rw [schedule]
      split <;> rfl
  · rfl

theorem proceeds_requestBinding (engine : Engine) (id : Nat) :
    engine.Proceeds (engine.requestBinding id).2 := by
  rw [requestBinding]
  split
  · next binding held =>
      split
      · exact proceeds_refl engine
      · exact proceeds_schedule (fun _ => trivial) (fun regular => regular.orderly.numbered held)
          (Or.inl rfl)
  · exact proceeds_refl engine

/-- Once an open binding has requested its execution, a unit of it waits. -/
theorem awaits_requestBinding
    (orderly : engine.Orderly) {id : Nat} {binding : Binding}
    (held : engine.bindings.get? id = some binding) (isOpen : binding.isClosed = false) :
    (engine.requestBinding id).2.Awaits id := by
  rw [requestBinding, held]
  simp only [isOpen, Bool.false_eq_true, if_false]
  rw [schedule]
  split
  · next busy =>
      exact orderly.queued held (List.contains_iff_mem.mp busy)
  · exact ⟨_, List.mem_append_right _ List.mem_cons_self⟩

/-- Without caches nothing is requested of one. -/
theorem requestCache_eq (orderly : engine.Orderly) (id : Nat) :
    (engine.requestCache id).2 = engine := by
  rw [requestCache, orderly.caches]
  rfl

theorem bindings_fresh (regular : engine.Regular) :
    engine.bindings.get? engine.nextId = none := by
  cases held : engine.bindings.get? engine.nextId with
  | none => rfl
  | some binding => exact absurd (regular.orderly.numbered held) (Nat.lt_irrefl _)

theorem proceeds_submit
    (engine : Engine) (table : String) {request : Request} (oneShot : request.isOneShot) :
    engine.Proceeds (engine.submit table request).2 := by
  intro regular
  have allocated := proceeds_allocate engine
  have scheduled :
      engine.allocate.2.Proceeds
        (engine.allocate.2.schedule engine.nextId
          (.request ⟨table, request.mode, request⟩)).2 :=
    proceeds_schedule (fun _ => oneShot) (fun _ => Nat.lt_succ_self _)
      (Or.inr fun _ => bindings_fresh regular)
  exact allocated.trans scheduled regular

/--
An operation that changes one binding and ends with requesting it lets the engine
proceed, whatever the binding was made to ask.
-/
theorem proceeds_of_request
    {before middle : Engine} {id : Nat}
    (regular : before.Regular → middle.Regular)
    (store : middle.store = before.store) (generation : middle.generation = before.generation)
    (queue : middle.queue = before.queue)
    (others : ∀ other, other ≠ id →
      middle.bindings.get? other = before.bindings.get? other) :
    before.Proceeds (middle.requestBinding id).2 := by
  intro regularBefore
  have regularMiddle := regular regularBefore
  rcases proceeds_requestBinding middle id regularMiddle with ⟨regularAfter, advances⟩
  refine ⟨regularAfter, ?_, ?_, ?_, ?_⟩
  · rw [← store]
    exact advances.store
  · rw [← generation]
    exact advances.generation
  · rw [← queue]
    exact advances.queue
  · intro other binding held isOpen
    rw [requestBinding_bindings] at held
    by_cases same : other = id
    · subst same
      exact Or.inl (awaits_requestBinding regularMiddle.orderly held isOpen)
    · rw [others other same] at held
      exact Or.inr ⟨binding, held, isOpen, rfl, rfl, rfl⟩

/-! ## Changing bindings -/

theorem get?_modifyBinding
    (engine : Engine) (id sought : Nat) (change : Binding → Binding) :
    (engine.modifyBinding id change).bindings.get? sought =
      if sought = id then (engine.bindings.get? sought).map change
      else engine.bindings.get? sought := by
  rw [modifyBinding, OrderedMap.get?_modify]
  simp only [Std.compare_eq_iff_eq]

/-- A binding after a change of one is a changed one or was there before. -/
theorem of_get?_modifyBinding
    {id sought : Nat} {change : Binding → Binding} {binding : Binding}
    (held : (engine.modifyBinding id change).bindings.get? sought = some binding) :
    ∃ former, engine.bindings.get? sought = some former ∧
      (binding = former ∧ sought ≠ id ∨ binding = change former ∧ sought = id) := by
  rw [get?_modifyBinding] at held
  split at held
  · next same =>
      rcases Option.map_eq_some_iff.mp held with ⟨former, heldFormer, rfl⟩
      exact ⟨former, heldFormer, Or.inr ⟨rfl, same⟩⟩
  · next different => exact ⟨binding, held, Or.inl ⟨rfl, different⟩⟩

theorem Orderly.modifyBinding
    (orderly : engine.Orderly) (id : Nat) {change : Binding → Binding}
    (live : ∀ binding : Binding, binding.Live → (change binding).Live) :
    (engine.modifyBinding id change).Orderly where
  store := orderly.store
  numbered held := by
    rcases of_get?_modifyBinding held with ⟨former, heldFormer, _⟩
    exact orderly.numbered heldFormer
  busy := orderly.busy
  queued held busy := by
    rcases of_get?_modifyBinding held with ⟨former, heldFormer, _⟩
    exact orderly.queued heldFormer busy
  tasks := orderly.tasks
  attached := orderly.attached
  listeners := orderly.listeners
  watchers := orderly.watchers
  bindings held := by
    rcases of_get?_modifyBinding held with ⟨former, heldFormer, ⟨rfl, _⟩ | ⟨rfl, _⟩⟩
    · exact orderly.bindings heldFormer
    · exact live former (orderly.bindings heldFormer)
  caches := orderly.caches
  former := orderly.former

theorem Regular.modifyBinding
    (regular : engine.Regular) (id : Nat) {change : Binding → Binding}
    (live : ∀ binding : Binding, binding.Live → (change binding).Live)
    (stays : ∀ binding : Binding,
      (change binding).isClosed = binding.isClosed ∧ (change binding).table = binding.table) :
    (engine.modifyBinding id change).Regular where
  orderly := regular.orderly.modifyBinding id live
  watchful := by
    intro sought binding held isOpen
    have watches : engine.Watches sought binding.table := by
      rcases of_get?_modifyBinding held with ⟨former, heldFormer, ⟨rfl, _⟩ | ⟨rfl, _⟩⟩
      · exact regular.watchful heldFormer isOpen
      · rw [(stays former).2]
        exact regular.watchful heldFormer ((stays former).1 ▸ isOpen)
    exact ⟨watches.attached, watches.listed⟩

/-- What does not change the query or the value of a binding lets the engine proceed. -/
theorem proceeds_modifyBinding
    (id : Nat) {change : Binding → Binding}
    (live : engine.Regular → ∀ binding : Binding, binding.Live → (change binding).Live)
    (stays : ∀ binding : Binding,
      (change binding).isClosed = binding.isClosed ∧ binding.SameQuery (change binding)) :
    engine.Proceeds (engine.modifyBinding id change) := by
  intro regular
  refine ⟨?_, .of_unchanged rfl rfl, rfl, fun _ member => member, ?_⟩
  · exact regular.modifyBinding id (live regular) fun binding =>
      ⟨(stays binding).1, (stays binding).2.table.symm⟩
  · intro sought binding held isOpen
    rcases of_get?_modifyBinding held with ⟨former, heldFormer, ⟨rfl, _⟩ | ⟨rfl, _⟩⟩
    · exact Or.inr ⟨binding, heldFormer, isOpen, rfl, rfl, rfl⟩
    · exact Or.inr ⟨former, heldFormer, (stays former).1 ▸ isOpen, (stays former).2⟩

/-! ## Watching and leaving -/

/-- What attaching and watching do to the parts of an engine that they do not change. -/
theorem attach_frame (engine : Engine) :
    engine.attach.store = engine.store ∧ engine.attach.bindings = engine.bindings ∧
      engine.attach.queue = engine.queue ∧ engine.attach.busy = engine.busy ∧
      engine.attach.registry = engine.registry ∧
      engine.attach.generation = engine.generation ∧ engine.attach.caches = engine.caches ∧
      engine.attach.former = engine.former ∧ engine.attach.nextId = engine.nextId := by
  rw [attach]
  split <;> exact ⟨rfl, rfl, rfl, rfl, rfl, rfl, rfl, rfl, rfl⟩

theorem attach_attached (engine : Engine) : engine.attach.attachment?.isSome := by
  rw [attach]
  split
  · next attached => rw [attached]; rfl
  · rfl

theorem Orderly.attach (orderly : engine.Orderly) : engine.attach.Orderly := by
  rw [Engine.attach]
  split
  · exact orderly
  · refine { orderly with attached := ?_, listeners := ?_ }
    · intro _
      simp [Subscribers.add, Subscribers.all]
    · intro listener member
      rcases Subscribers.mem_all_add.mp member with before | rfl
      · exact orderly.listeners listener before
      · trivial

theorem Orderly.watch
    (orderly : engine.Orderly) (id : Nat) (table : String) {watcher : Watcher}
    (live : watcher.Live) :
    (engine.watch id table watcher).Orderly := by
  refine { orderly.attach with watchers := ?_ }
  intro sought entry listed
  rcases Registry.of_mem_entriesOf_watch listed with rfl | before
  · exact live
  · exact orderly.attach.watchers before

theorem Orderly.leave (orderly : engine.Orderly) (id : Nat) : (engine.leave id).Orderly := by
  refine { orderly with watchers := ?_ }
  intro table entry listed
  exact orderly.watchers (Registry.of_mem_entriesOf_remove listed)

theorem watches_watch_self (engine : Engine) (id : Nat) (table : String) :
    (engine.watch id table (.binding id)).Watches id table where
  attached := engine.attach_attached
  listed := Registry.mem_entriesOf_watch_self _ _ _ _

theorem Watches.watch
    {other : Nat} {table : String} (watches : engine.Watches other table)
    {id : Nat} (different : other ≠ id) (watched : String) (watcher : Watcher) :
    (engine.watch id watched watcher).Watches other table where
  attached := engine.attach_attached
  listed := by
    apply Registry.mem_entriesOf_watch different
    rw [engine.attach_frame.2.2.2.2.1]
    exact watches.listed

theorem Watches.leave
    {other : Nat} {table : String} (watches : engine.Watches other table)
    {id : Nat} (different : other ≠ id) :
    (engine.leave id).Watches other table where
  attached := watches.attached
  listed := Registry.mem_entriesOf_remove different watches.listed

/-! ## Closing -/

theorem proceeds_closeBinding (engine : Engine) (id : Nat) :
    engine.Proceeds (engine.closeBinding id) := by
  intro regular
  rw [closeBinding]
  split
  · exact proceeds_refl engine regular
  · split
    · exact proceeds_refl engine regular
    · refine ⟨⟨?_, ?_⟩, .of_unchanged rfl rfl, rfl, fun _ member => member, ?_⟩
      · apply (regular.orderly.leave id).modifyBinding
        intro binding live
        constructor
        · simp [Subscribers.clear, Subscribers.all]
        · simp
      · intro other binding held isOpen
        rcases of_get?_modifyBinding held with ⟨former, heldFormer, ⟨rfl, different⟩ | ⟨rfl, _⟩⟩
        · have watches := (regular.watchful heldFormer isOpen).leave different
          exact ⟨watches.attached, watches.listed⟩
        · contradiction
      · intro other binding held isOpen
        rcases of_get?_modifyBinding held with ⟨former, heldFormer, ⟨rfl, different⟩ | ⟨rfl, _⟩⟩
        · exact Or.inr ⟨binding, heldFormer, isOpen, rfl, rfl, rfl⟩
        · contradiction

theorem proceeds_closeCache (engine : Engine) (id : Nat) :
    engine.Proceeds (engine.closeCache id) := by
  intro regular
  have unchanged : engine.closeCache id = engine := by
    rw [closeCache, regular.orderly.caches]
    rfl
  rw [unchanged]
  exact proceeds_refl engine regular

theorem proceeds_closeObject (engine : Engine) (id : Nat) :
    engine.Proceeds (engine.closeObject id) :=
  (proceeds_closeBinding engine id).trans (proceeds_closeCache _ id)

theorem proceeds_discard (engine : Engine) (id : Nat) : engine.Proceeds (engine.discard id) := by
  rw [discard]
  split
  · exact SameWork.proceeds (.of_essence rfl rfl)
  · exact proceeds_closeObject engine id

theorem proceeds_settleGivenUp (engine : Engine) (held : Held) :
    engine.Proceeds (engine.settleGivenUp held) := by
  cases held with
  | registry generation =>
      intro regular
      have unchanged : engine.settleGivenUp (.registry generation) = engine := by
        rw [settleGivenUp, regular.orderly.former]
        rfl
      rw [unchanged]
      exact proceeds_refl engine regular
  | object id =>
      rw [settleGivenUp]
      split
      · exact (proceeds_closeObject engine id).trans (SameWork.proceeds (.of_essence rfl rfl))
      · exact proceeds_refl engine

theorem proceeds_letGo (engine : Engine) (held : Held) : engine.Proceeds (engine.letGo held) := by
  have released : engine.Proceeds { engine with holds := engine.holds.erase held } :=
    SameWork.proceeds (.of_essence rfl rfl)
  rw [letGo]
  split
  · exact released
  · exact released.trans (proceeds_settleGivenUp _ held)

/-! ## Asking something else -/

theorem watch_frame (engine : Engine) (id : Nat) (table : String) (watcher : Watcher) :
    (engine.watch id table watcher).store = engine.store ∧
      (engine.watch id table watcher).bindings = engine.bindings ∧
      (engine.watch id table watcher).queue = engine.queue ∧
      (engine.watch id table watcher).generation = engine.generation := by
  rcases engine.attach_frame with ⟨store, bindings, queue, _, _, generation, _⟩
  exact ⟨store, bindings, queue, generation⟩

theorem get?_insertBinding (engine : Engine) (id sought : Nat) (binding : Binding) :
    (engine.bindings.insert id binding).get? sought =
      if sought = id then some binding else engine.bindings.get? sought := by
  rw [OrderedMap.get?_insert]
  simp only [Std.compare_eq_iff_eq]

/-- An engine with a new binding, which watches nothing yet. -/
def withBinding (engine : Engine) (binding : Binding) : Engine :=
  { engine.allocate.2 with bindings := engine.bindings.insert engine.nextId binding }

theorem Orderly.withBinding
    (orderly : engine.Orderly) {binding : Binding} (live : binding.Live) :
    (engine.withBinding binding).Orderly where
  store := orderly.store
  numbered := by
    intro id found held
    rw [Engine.withBinding, get?_insertBinding] at held
    split at held
    · next same =>
        rw [same]
        exact Nat.lt_succ_self _
    · exact Nat.lt_succ_of_lt (orderly.numbered held)
  busy busy := Nat.lt_succ_of_lt (orderly.busy busy)
  queued := by
    intro id found held busy
    rw [Engine.withBinding, get?_insertBinding] at held
    split at held
    · next same =>
        rw [same] at busy
        exact absurd (orderly.busy busy) (Nat.lt_irrefl _)
    · exact orderly.queued held busy
  tasks := orderly.tasks
  attached := orderly.attached
  listeners := orderly.listeners
  watchers := orderly.watchers
  bindings := by
    intro id found held
    rw [Engine.withBinding, get?_insertBinding] at held
    split at held
    · rcases Option.some.inj held with rfl
      exact live
    · exact orderly.bindings held
  caches := orderly.caches
  former := orderly.former

theorem proceeds_createBinding (engine : Engine) (table : String) (descriptor : Descriptor) :
    engine.Proceeds (engine.createBinding table descriptor).2 := by
  let created := engine.withBinding (.create table descriptor)
  let id := engine.nextId
  have bindings := (created.watch_frame id table (.binding id)).2.1
  show engine.Proceeds ((created.watch id table (.binding id)).requestBinding id).2
  apply proceeds_of_request
  · intro regular
    have live : (Binding.create table descriptor).Live :=
      ⟨fun _ member => (nomatch member), fun _ member => (nomatch member)⟩
    constructor
    · exact (regular.orderly.withBinding live).watch id table trivial
    · intro sought found held isOpen
      rw [bindings] at held
      change (engine.bindings.insert id _).get? sought = some found at held
      rw [get?_insertBinding] at held
      split at held
      · next same =>
          rcases Option.some.inj held with rfl
          rw [same]
          exact watches_watch_self created id table
      · next different =>
          have watches := regular.watchful held isOpen
          have watchesStill : created.Watches sought found.table :=
            ⟨watches.attached, watches.listed⟩
          exact watchesStill.watch different table _
  · exact (created.watch_frame id table _).1
  · exact (created.watch_frame id table _).2.2.2
  · exact (created.watch_frame id table _).2.2.1
  · intro other different
    rw [bindings]
    show (engine.bindings.insert id _).get? other = _
    rw [get?_insertBinding, if_neg different]

theorem others_modifyBinding
    (engine : Engine) (id : Nat) (change : Binding → Binding) (other : Nat)
    (different : other ≠ id) :
    (engine.modifyBinding id change).bindings.get? other = engine.bindings.get? other := by
  rw [get?_modifyBinding, if_neg different]

theorem proceeds_setDescriptor
    (engine : Engine) (id : Nat) (binding : Binding) (descriptor : Descriptor) :
    engine.Proceeds (engine.setDescriptor id binding descriptor).2 := by
  rw [setDescriptor]
  split
  · exact proceeds_refl engine
  · let change : Binding → Binding := fun binding => { binding with descriptor := descriptor }
    show engine.Proceeds ((engine.modifyBinding id change).requestBinding id).2
    refine proceeds_of_request ?_ rfl rfl rfl (others_modifyBinding engine id change)
    intro regular
    apply regular.modifyBinding id
    · exact fun _ live => ⟨live.consumers, live.waiting⟩
    · exact fun _ => ⟨rfl, rfl⟩

/-- The engine with a binding changed, which watches a table from then on unless it is closed. -/
def moveBinding (engine : Engine) (id : Nat) (isClosed : Bool) (table : String)
    (change : Binding → Binding) : Engine :=
  if isClosed then engine.modifyBinding id change
  else (engine.modifyBinding id change).watch id table (.binding id)

theorem Regular.moveBinding
    (regular : engine.Regular) {id : Nat} {isClosed : Bool}
    (agrees : ∀ binding, engine.bindings.get? id = some binding → binding.isClosed = isClosed)
    {table : String} {change : Binding → Binding}
    (live : ∀ binding : Binding, binding.Live → (change binding).Live)
    (moves : ∀ binding : Binding,
      (change binding).isClosed = binding.isClosed ∧ (change binding).table = table) :
    (engine.moveBinding id isClosed table change).Regular := by
  have orderly := regular.orderly.modifyBinding id live
  have others
      {sought : Nat} {binding : Binding} (held : engine.bindings.get? sought = some binding)
      (isOpen : binding.isClosed = false) :
      (engine.modifyBinding id change).Watches sought binding.table :=
    ⟨(regular.watchful held isOpen).attached, (regular.watchful held isOpen).listed⟩
  rw [Engine.moveBinding]
  split
  · next closed =>
      refine ⟨orderly, ?_⟩
      intro sought binding held isOpen
      rcases of_get?_modifyBinding held with ⟨former, heldFormer, ⟨rfl, _⟩ | ⟨rfl, rfl⟩⟩
      · exact others heldFormer isOpen
      · rw [(moves former).1, agrees former heldFormer, closed] at isOpen
        contradiction
  · refine ⟨orderly.watch id table trivial, ?_⟩
    intro sought binding held isOpen
    rw [(watch_frame _ _ _ _).2.1] at held
    rcases of_get?_modifyBinding held with ⟨former, heldFormer, ⟨rfl, different⟩ | ⟨rfl, rfl⟩⟩
    · exact (others heldFormer isOpen).watch different table _
    · rw [(moves former).2]
      exact watches_watch_self _ _ table

theorem proceeds_moveBinding
    {id : Nat} {isClosed : Bool}
    (agrees : ∀ binding, engine.bindings.get? id = some binding → binding.isClosed = isClosed)
    {table : String} {change : Binding → Binding}
    (live : ∀ binding : Binding, binding.Live → (change binding).Live)
    (moves : ∀ binding : Binding,
      (change binding).isClosed = binding.isClosed ∧ (change binding).table = table) :
    engine.Proceeds ((engine.moveBinding id isClosed table change).requestBinding id).2 := by
  have frame :
      (engine.moveBinding id isClosed table change).store = engine.store ∧
        (engine.moveBinding id isClosed table change).bindings =
          (engine.modifyBinding id change).bindings ∧
        (engine.moveBinding id isClosed table change).queue = engine.queue ∧
        (engine.moveBinding id isClosed table change).generation = engine.generation := by
    rw [moveBinding]
    split
    · exact ⟨rfl, rfl, rfl, rfl⟩
    · exact (engine.modifyBinding id change).watch_frame id table (.binding id)
  rcases frame with ⟨store, bindings, queue, generation⟩
  apply proceeds_of_request (fun regular => regular.moveBinding agrees live moves)
    store generation queue
  intro other different
  rw [bindings]
  exact others_modifyBinding engine id change other different

theorem proceeds_setTable
    {id : Nat} {binding : Binding} (held : engine.bindings.get? id = some binding)
    (table : String) :
    engine.Proceeds (engine.setTable id binding table).2 := by
  rw [setTable]
  split
  · exact proceeds_refl engine
  · let change : Binding → Binding := fun binding => { binding with table := table }
    show engine.Proceeds
      ((engine.moveBinding id binding.isClosed table change).requestBinding id).2
    apply proceeds_moveBinding
    · intro current heldCurrent
      rw [held] at heldCurrent
      rw [Option.some.inj heldCurrent]
    · exact fun _ live => ⟨live.consumers, live.waiting⟩
    · exact fun _ => ⟨rfl, rfl⟩

theorem modifyBinding_modifyBinding
    (engine : Engine) (id : Nat) (first second : Binding → Binding) :
    (engine.modifyBinding id first).modifyBinding id second =
      engine.modifyBinding id fun binding => second (first binding) := by
  simp only [modifyBinding, OrderedMap.modify_modify]

theorem proceeds_fetch
    {id : Nat} {binding : Binding} (held : engine.bindings.get? id = some binding)
    (table? : Option String) (descriptor? : Option Descriptor) {callback : Callback}
    (live : callback.Live) :
    engine.Proceeds (engine.fetch id binding table? descriptor? callback).2 := by
  have agrees (current : Binding) (heldCurrent : engine.bindings.get? id = some current) :
      current.isClosed = binding.isClosed := by
    rw [held] at heldCurrent
    rw [Option.some.inj heldCurrent]
  rw [fetch]
  split
  · exact proceeds_refl engine
  · let newDescriptor? := descriptor?.filter (!binding.descriptor.same ·)
    let waits : Binding → Binding := fun binding =>
      { binding with
        waiting := binding.waiting ++ [callback]
        descriptor := newDescriptor?.getD binding.descriptor }
    have waitsLive (binding : Binding) (before : binding.Live) : (waits binding).Live := by
      refine ⟨before.consumers, ?_⟩
      intro other member
      rcases List.mem_append.mp member with former | new
      · exact before.waiting other former
      · rw [List.mem_singleton.mp new]
        exact live
    split
    · next table new =>
        let moves : Binding → Binding := fun binding => { waits binding with table := table }
        have different : binding.table ≠ table := by
          intro same
          simp [← same, Option.filter_eq_some_iff] at new
        have moved :
            (engine.modifyBinding id waits).setTable id binding table =
              (some ((engine.moveBinding id binding.isClosed table moves).requestBinding id).1,
                ((engine.moveBinding id binding.isClosed table moves).requestBinding id).2) := by
          rw [setTable, if_neg different, modifyBinding_modifyBinding]
          rfl
        show engine.Proceeds ((engine.modifyBinding id waits).setTable id binding table).2
        rw [moved]
        have movesLive (binding : Binding) (before : binding.Live) : (moves binding).Live :=
          ⟨(waitsLive binding before).consumers, (waitsLive binding before).waiting⟩
        exact proceeds_moveBinding agrees movesLive fun _ => ⟨rfl, rfl⟩
    · show engine.Proceeds ((engine.modifyBinding id waits).requestBinding id).2
      refine proceeds_of_request ?_ rfl rfl rfl (others_modifyBinding engine id waits)
      intro regular
      exact regular.modifyBinding id waitsLive fun _ => ⟨rfl, rfl⟩

end Engine

end LiveTable
