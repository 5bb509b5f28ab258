import LiveTable.Proofs.Engine.Deeds
import LiveTable.Proofs.Engine.Pursuit
import LiveTable.Proofs.Engine.Steadiness

/-!
# Caches are kept up to date

An open cache is followed up as long as what it holds may be out of date: a fetch of it
waits, a batch that touches its table has not been delivered, an activity that will alert
it is on the agenda, or the latest that has happened to it is no fetch that succeeded.
Otherwise it holds, or is about to be given, what its query answers.

`Machine.Tended` says so of every open cache of a machine.  Each step of a machine keeps
it: most only pursue what is asked, and those that do not are taken one by one.
-/

set_option autoImplicit false

namespace LiveTable

/-! ## Following up -/

/-- An activity that comes to alert the cache of a number that watches a table. -/
def Activity.AlertsCache (generation id : Nat) (table : String) : Activity → Prop
  | .tell (.registry told) batch => told = generation ∧ Touches batch table
  | .dispatch told batch => told = generation ∧ Touches batch table
  | .visit told visited => told = generation ∧ visited = table
  | .alert (.cache other) _ => other = id
  | _ => False

/-- Whether an activity gives a cache the records of its fetch. -/
def Activity.isRefill : Activity → Bool
  | .refill _ _ => true
  | _ => false

theorem Activity.Usual.not_refill {activity : Activity} (usual : activity.Usual) :
    activity.isRefill = false := by
  cases activity with
  | refill id records => exact usual.elim
  | _ => rfl

namespace Machine

/-- The items that a cache holds, or is given by the next activity. -/
def upcomingItems (machine : Machine) (id : Nat) (cache : ItemCache) : Items :=
  match machine.agenda with
  | .refill target records :: _ =>
    if target = id then Items.collect cache.idField records else cache.items
  | _ => cache.items

/-- A cache that the next activity does not fill goes on holding what it holds. -/
theorem upcomingItems_of_not_refill
    {machine : Machine} (other : ∀ activity ∈ machine.agenda.head?, activity.isRefill = false)
    (id : Nat) (cache : ItemCache) :
    machine.upcomingItems id cache = cache.items := by
  rw [upcomingItems]
  split
  · next target records rest agenda =>
      have head : Activity.refill target records ∈ machine.agenda.head? := by
        rw [agenda]
        exact rfl
      exact nomatch other _ head
  · rfl

theorem upcomingItems_of_usual
    {machine : Machine} (usual : Usual machine.agenda) (id : Nat) (cache : ItemCache) :
    machine.upcomingItems id cache = cache.items :=
  upcomingItems_of_not_refill
    (fun activity head => (usual activity (List.mem_of_head? head)).not_refill) id cache

/-- Why an open cache holds, or comes to hold, what its query answers. -/
inductive Followed (machine : Machine) (history : List Deed) (id : Nat) (cache : ItemCache) :
    Prop where
  | awaited (awaits : machine.engine.AwaitsFetch id)
  | published {batch : List Change} (waits : batch ∈ machine.engine.store.outbox)
      (touched : Touches batch cache.table)
  | alerted {activity : Activity} (due : activity ∈ machine.agenda)
      (alerts : activity.AlertsCache machine.engine.generation id cache.table)
  | stale (stale : Deed.upToDate history id = false)
  | answered {answer : QueryResult}
      (answered : cache.descriptor.compiled? machine.engine.store.tables cache.table = some answer)
      (holds : machine.upcomingItems id cache =
        Items.collect cache.idField (answer.records?.getD []))

/-- A machine between two steps in which every open cache is followed up. -/
structure Tended (machine : Machine) (history : List Deed) : Prop where
  arranged : machine.engine.Arranged
  agenda : ∀ activity ∈ machine.agenda, activity.Usual ∨ activity.isRefill
  rest : Usual machine.agenda.tail
  deeds : ∀ deed ∈ history, deed.cache < machine.engine.nextId
  followed {id : Nat} {cache : ItemCache} (held : machine.engine.caches.get? id = some cache)
    (isOpen : cache.isClosed = false) : machine.Followed history id cache

variable {machine after : Machine} {history later : List Deed}

/--
What keeps a cache followed up from one machine to another: what waits for it is passed on,
contents change only where a batch says so, and it holds what it held or was to be given.
-/
theorem Followed.carry
    {id : Nat} {former cache : ItemCache} (followed : machine.Followed history id former)
    (table : former.table = cache.table) (idField : former.idField = cache.idField)
    (tracked : former.tracked = cache.tracked)
    (awaits : machine.engine.AwaitsFetch id → after.engine.AwaitsFetch id)
    (wellFormed : machine.engine.store.tables.WellFormed)
    (tables : machine.engine.store.tables.KeepsAt after.engine.store.tables cache.table ∨
      ∃ batch ∈ after.engine.store.outbox, Touches batch cache.table)
    (published : ∀ batch ∈ machine.engine.store.outbox, Touches batch cache.table →
      batch ∈ after.engine.store.outbox ∨
        ∃ due ∈ after.agenda, due.AlertsCache after.engine.generation id cache.table)
    (alerted : ∀ activity ∈ machine.agenda,
      activity.AlertsCache machine.engine.generation id cache.table →
      after.engine.AwaitsFetch id ∨
        ∃ due ∈ after.agenda, due.AlertsCache after.engine.generation id cache.table)
    (remembered : Deed.upToDate later id = Deed.upToDate history id)
    (holds : after.upcomingItems id cache = machine.upcomingItems id former) :
    after.Followed later id cache := by
  cases followed with
  | awaited waits => exact .awaited (awaits waits)
  | published waits touched =>
      rw [table] at touched
      rcases published _ waits touched with stays | ⟨due, member, alerts⟩
      · exact .published stays touched
      · exact .alerted member alerts
  | alerted due alerts =>
      rw [table] at alerts
      rcases alerted _ due alerts with waits | ⟨next, member, alertsNext⟩
      · exact .awaited waits
      · exact .alerted member alertsNext
  | stale stale => exact .stale (remembered.trans stale)
  | @answered answer answered held =>
      have sameDescriptor : former.descriptor = cache.descriptor := by
        rw [ItemCache.descriptor, ItemCache.descriptor, idField, tracked]
      rw [table, sameDescriptor] at answered
      -- What has changed in the table since is announced by a batch that waits.
      rcases tables with kept | ⟨batch, waits, touched⟩
      · refine .answered (Descriptor.compiled?_of_keepsAt kept wellFormed answered) ?_
        rw [holds, held, idField]
      · exact .published waits touched

theorem Tended.agenda_append
    {activity : Activity} {new rest : List Activity} (tended : machine.Tended history)
    (agenda : machine.agenda = activity :: rest) (usual : Usual new) :
    Usual (new ++ rest) := by
  have others := tended.rest
  rw [agenda] at others
  exact usual_append usual others

theorem Tended.usual_agenda
    {activity : Activity} {rest : List Activity} (tended : machine.Tended history)
    (agenda : machine.agenda = activity :: rest) (usual : activity.Usual) :
    Usual machine.agenda := by
  rw [agenda]
  have first : Usual [activity] := usual_cons usual usual_nil
  exact tended.agenda_append agenda first

/-- A machine with nothing but usual activities is tended if its caches are followed up. -/
theorem Tended.of_usual
    (arranged : machine.engine.Arranged) (usual : Usual machine.agenda)
    (deeds : ∀ deed ∈ history, deed.cache < machine.engine.nextId)
    (followed : ∀ {id : Nat} {cache : ItemCache}, machine.engine.caches.get? id = some cache →
      cache.isClosed = false → machine.Followed history id cache) :
    machine.Tended history where
  arranged := arranged
  agenda activity member := Or.inl (usual activity member)
  rest activity member := usual activity (List.mem_of_mem_tail member)
  deeds := deeds
  followed := followed

/-! ## Steps that pursue what is asked -/

/-- An activity that pursues what is asked keeps a machine tended, if alerts are passed on. -/
theorem Tended.of_pursues
    {activity : Activity} {rest : List Activity} (tended : machine.Tended history)
    (agenda : machine.agenda = activity :: rest) (usual : activity.Usual)
    (pursues : Pursues { machine with agenda := rest } after)
    (passes : ∀ id cache, machine.engine.caches.get? id = some cache → cache.isClosed = false →
      activity.AlertsCache machine.engine.generation id cache.table →
      after.engine.AwaitsFetch id ∨
        ∃ due ∈ after.agenda, due.AlertsCache machine.engine.generation id cache.table) :
    after.Tended history := by
  rcases pursues with ⟨upholds, new, agendaAfter, usualNew⟩
  rcases upholds tended.arranged with ⟨arrangedAfter, tends⟩
  have usualAfter : Usual after.agenda := by
    rw [agendaAfter]
    exact tended.agenda_append agenda (usualNew tended.arranged)
  have usualBefore := tended.usual_agenda agenda usual
  apply Tended.of_usual arrangedAfter usualAfter
  · intro deed member
    exact Nat.lt_of_lt_of_le (tended.deeds deed member) tends.nextId
  · intro id cache held isOpen
    rcases tends.caches held isOpen with awaits | new | ⟨former, heldFormer, openFormer, same⟩
    · exact .awaited awaits
    · -- The number of a new cache is in no deed so far.
      apply Followed.stale
      apply Deed.upToDate_of_new
      intro deed member here
      have early := tended.deeds deed member
      rw [here] at early
      exact absurd early (Nat.not_lt.mpr new)
    · refine (tended.followed heldFormer openFormer).carry same.table same.idField same.tracked
        (fun awaits => awaits.mono tends.queue) tended.arranged.store.wellFormed
        (tends.store.told cache.table) ?_ ?_ rfl ?_
      · exact fun batch waits _ => Or.inl (tends.store.outbox batch waits)
      · intro found member alerts
        rw [tends.generation]
        rw [agenda] at member
        rcases List.mem_cons.mp member with rfl | later
        · rw [← same.table] at alerts ⊢
          exact passes id former heldFormer openFormer alerts
        · refine Or.inr ⟨found, ?_, alerts⟩
          rw [agendaAfter]
          exact List.mem_append_right _ later
      · rw [upcomingItems_of_usual usualAfter, upcomingItems_of_usual usualBefore, same.items]

/-! ## Delivering a batch -/

/-- A batch that leaves the outbox is passed to the registry, which every open cache watches. -/
theorem Tended.deliver
    {delivered : Nat} {rest : List Activity} {batch : List Change} {waiting : List (List Change)}
    (tended : machine.Tended history) (agenda : machine.agenda = .deliver delivered :: rest)
    (outbox : machine.engine.store.outbox = batch :: waiting) :
    (Machine.deliver { machine with agenda := rest } delivered).Tended history := by
  let engine : Engine :=
    { machine.engine with store := { machine.engine.store with outbox := waiting } }
  let new : List Activity :=
    machine.engine.listeners.all.map (.tell · batch) ++ [.deliver (delivered + 1)]
  have delivers :
      Machine.deliver { machine with agenda := rest } delivered =
        { machine with engine := engine, agenda := new ++ rest } := by
    simp only [Machine.deliver, outbox]
    rfl
  rw [delivers]
  have usual : Usual (new ++ rest) := by
    apply tended.agenda_append agenda
    have ends : Usual [.deliver (delivered + 1)] := usual_cons trivial usual_nil
    exact usual_append (usual_map tended.arranged.listeners) ends
  apply Tended.of_usual
  · have sound := tended.arranged.store
    exact tended.arranged.withStore ⟨sound.wellFormed, sound.created⟩
  · exact usual
  · exact tended.deeds
  · intro id cache held isOpen
    refine (tended.followed held isOpen).carry rfl rfl rfl (fun awaits => awaits)
      tended.arranged.store.wellFormed (Or.inl (.refl _ _)) ?_ ?_ rfl ?_
    · intro found waits touched
      rw [outbox] at waits
      rcases List.mem_cons.mp waits with rfl | waits
      · -- The batch goes to the registry, which listens because an open cache watches.
        have attached := (tended.arranged.watching held isOpen).attached
        have listens := tended.arranged.attached attached
        have told : .tell (.registry machine.engine.generation) found ∈ new ++ rest := by
          apply List.mem_append_left
          apply List.mem_append_left
          exact List.mem_map_of_mem listens
        exact Or.inr ⟨_, told, rfl, touched⟩
      · exact Or.inl waits
    · intro found member alerts
      rw [agenda] at member
      rcases List.mem_cons.mp member with rfl | later
      · exact alerts.elim
      · exact Or.inr ⟨found, List.mem_append_right _ later, alerts⟩
    · rw [upcomingItems_of_usual usual, upcomingItems, agenda]

/-! ## Filling a cache -/

/--
A step that leaves the store, the queue and the rest of the agenda as they were, and
every open cache with what it was about to hold.
-/
theorem Tended.of_kept
    {activity : Activity} {new rest : List Activity} (tended : machine.Tended history)
    (agenda : machine.agenda = activity :: rest)
    (silent : ∀ id table, ¬ activity.AlertsCache machine.engine.generation id table)
    (arranged : after.engine.Arranged)
    (store : after.engine.store = machine.engine.store)
    (queue : after.engine.queue = machine.engine.queue)
    (generation : after.engine.generation = machine.engine.generation)
    (nextId : after.engine.nextId = machine.engine.nextId)
    (agendaAfter : after.agenda = new ++ rest) (usual : Usual new)
    (deeds : ∀ deed ∈ later, deed.cache < machine.engine.nextId)
    (caches : ∀ id cache, after.engine.caches.get? id = some cache → cache.isClosed = false →
      Deed.upToDate later id = false ∨
        Deed.upToDate later id = Deed.upToDate history id ∧
          ∃ former, machine.engine.caches.get? id = some former ∧ former.isClosed = false ∧
            former.table = cache.table ∧ former.idField = cache.idField ∧
            former.tracked = cache.tracked ∧ cache.items = machine.upcomingItems id former) :
    after.Tended later := by
  have usualAfter : Usual after.agenda := by
    rw [agendaAfter]
    exact tended.agenda_append agenda usual
  apply Tended.of_usual arranged usualAfter
  · intro deed member
    rw [nextId]
    exact deeds deed member
  · intro id cache held isOpen
    rcases caches id cache held isOpen with stale | ⟨remembered, former, heldFormer, rest⟩
    · exact .stale stale
    · rcases rest with ⟨openFormer, table, idField, tracked, items⟩
      refine (tended.followed heldFormer openFormer).carry table idField tracked ?_
        tended.arranged.store.wellFormed ?_ ?_ ?_ remembered ?_
      · intro awaits
        rwa [Engine.AwaitsFetch, queue]
      · rw [store]
        exact Or.inl (.refl _ _)
      · intro batch waits _
        rw [store]
        exact Or.inl waits
      · intro found member alerts
        rw [agenda] at member
        rcases List.mem_cons.mp member with rfl | remains
        · exact absurd alerts (silent id cache.table)
        · refine Or.inr ⟨found, ?_, ?_⟩
          · rw [agendaAfter]
            exact List.mem_append_right _ remains
          · rwa [generation]
      · rw [upcomingItems_of_usual usualAfter, items]

theorem Tended.refill
    {target : Nat} {records : List Record} {rest : List Activity}
    (tended : machine.Tended history) (agenda : machine.agenda = .refill target records :: rest) :
    (Machine.refill { machine with agenda := rest } target records).Tended history := by
  have upcoming (id : Nat) (former : ItemCache) :
      machine.upcomingItems id former =
        if target = id then Items.collect former.idField records else former.items := by
    rw [upcomingItems, agenda]
  rw [Machine.refill]
  split
  · next missing =>
      refine tended.of_kept agenda (fun _ _ => id) tended.arranged rfl rfl rfl rfl
        (List.nil_append rest).symm usual_nil tended.deeds ?_
      intro id cache held isOpen
      refine Or.inr ⟨rfl, cache, held, isOpen, rfl, rfl, rfl, ?_⟩
      rw [upcoming]
      refine (if_neg ?_).symm
      rintro rfl
      cases missing.symm.trans held
  · next current found =>
      have heldCurrent : machine.engine.caches.get? target = some current := found
      let fill : ItemCache → ItemCache := fun cache =>
        { cache with items := Items.collect current.idField records, waiting := [] }
      have arranged : (machine.engine.modifyCache target fill).Arranged := by
        apply tended.arranged.modifyCache target
        · exact fun cache fetching => ⟨fetching.consumers, List.forall_mem_nil _⟩
        · exact fun _ => ⟨rfl, rfl⟩
      have serves : Usual
          (current.waiting.map (fun waiting => .serveItem target waiting.1 waiting.2) ++
            [.spread target]) := by
        have spreads : Usual [.spread target] := usual_cons trivial usual_nil
        refine usual_append (usual_map ?_) spreads
        exact (tended.arranged.caches heldCurrent).waiting
      refine tended.of_kept agenda (fun _ _ => id) arranged rfl rfl rfl rfl rfl serves
        tended.deeds ?_
      intro id cache held isOpen
      refine Or.inr ⟨rfl, ?_⟩
      rcases Engine.get?_modifyCache_cases held with
        ⟨former, heldFormer, ⟨rfl, different⟩ | ⟨rfl, rfl⟩⟩
      · refine ⟨cache, heldFormer, isOpen, rfl, rfl, rfl, ?_⟩
        rw [upcoming, if_neg (Ne.symm different)]
      · rcases Option.some.inj (heldCurrent.symm.trans heldFormer) with rfl
        refine ⟨current, heldFormer, isOpen, rfl, rfl, rfl, ?_⟩
        rw [upcoming, if_pos rfl]

/-! ## Tracking -/

theorem addAll_of_contained
    {tracked : ValueSet} {ids : List Value} (contained : ids.all tracked.contains) :
    tracked.addAll ids = tracked := by
  induction ids with
  | nil => rfl
  | cons id rest ih =>
      rw [List.all_cons, Bool.and_eq_true] at contained
      rw [ValueSet.addAll, List.foldl_cons, ValueSet.add, if_pos contained.1]
      exact ih contained.2

/-- A cache that is made to track more is not up to date, and any other is what it was. -/
theorem Tended.track
    {name : String} {ids : List Value} {rest : List Activity} (tended : machine.Tended history)
    (agenda : machine.agenda = .perform (.cache (.track name ids)) :: rest) :
    (Machine.performCache { machine with agenda := rest } (.track name ids)).Tended
      (machine.chronicle history) := by
  have upcoming (id : Nat) (cache : ItemCache) : cache.items = machine.upcomingItems id cache := by
    rw [upcomingItems, agenda]
  have deed : machine.deed? = (machine.engine.cache? name).bind fun found =>
      if ids.all found.2.tracked.contains then none else some (.extended found.1) := by
    rw [deed?, agenda]
  rw [performCache, withCache]
  cases named : machine.engine.cache? name with
  | none =>
      rw [named] at deed
      rw [chronicle_of_none deed]
      refine tended.of_kept agenda (fun _ _ => id) tended.arranged rfl rfl rfl rfl
        (List.nil_append rest).symm usual_nil tended.deeds ?_
      intro id cache held isOpen
      exact Or.inr ⟨rfl, cache, held, isOpen, rfl, rfl, rfl, upcoming id cache⟩
  | some found =>
      rcases found with ⟨target, current⟩
      have heldCurrent : machine.engine.caches.get? target = some current :=
        Engine.held_of_cache? named
      let extend : ItemCache → ItemCache := fun cache =>
        { cache with tracked := cache.tracked.addAll ids }
      have arranged : (machine.engine.modifyCache target extend).Arranged := by
        apply tended.arranged.modifyCache target
        · exact fun cache fetching => ⟨fetching.consumers, fetching.waiting⟩
        · exact fun _ => ⟨rfl, rfl⟩
      rw [named, Option.bind_some] at deed
      cases contained : ids.all current.tracked.contains with
      | true =>
          rw [if_pos contained] at deed
          rw [chronicle_of_none deed]
          refine tended.of_kept agenda (fun _ _ => id) arranged rfl rfl rfl rfl
            (List.nil_append rest).symm usual_nil tended.deeds ?_
          intro id cache held isOpen
          refine Or.inr ⟨rfl, ?_⟩
          rcases Engine.get?_modifyCache_cases held with
            ⟨former, heldFormer, ⟨rfl, _⟩ | ⟨rfl, rfl⟩⟩
          · exact ⟨cache, heldFormer, isOpen, rfl, rfl, rfl, upcoming id cache⟩
          · rcases Option.some.inj (heldCurrent.symm.trans heldFormer) with rfl
            exact ⟨current, heldFormer, isOpen, rfl, rfl, (addAll_of_contained contained).symm,
              upcoming id current⟩
      | false =>
          rw [if_neg (by simp [contained])] at deed
          rw [chronicle_of_some deed]
          refine tended.of_kept agenda (fun _ _ => id) arranged rfl rfl rfl rfl
            (List.nil_append rest).symm usual_nil ?_ ?_
          · intro deed member
            rcases List.mem_cons.mp member with rfl | before
            · exact tended.arranged.numbered heldCurrent
            · exact tended.deeds deed before
          · intro id cache held isOpen
            rcases Engine.get?_modifyCache_cases held with
              ⟨former, heldFormer, ⟨rfl, different⟩ | ⟨rfl, rfl⟩⟩
            · refine Or.inr ⟨Deed.upToDate_cons_other (Ne.symm different) history, ?_⟩
              exact ⟨cache, heldFormer, isOpen, rfl, rfl, rfl, upcoming id cache⟩
            · exact Or.inl (Deed.upToDate_cons_self (.extended id) history)

/-! ## Running a unit -/

/--
A unit that has run leaves its executor free; the caches of other executors are followed
up as they were, and its own as told.
-/
theorem Tended.of_unit
    {ran executor clock : Nat} {job : Job} {rest new : List Activity} {waiting : List Task}
    (tended : machine.Tended history) (agenda : machine.agenda = .drain ran none :: rest)
    (queue : machine.engine.queue = .unit executor job clock :: waiting)
    (worked : Engine)
    (same : Engine.SameWork { machine.engine with queue := waiting, store := worked.store } worked)
    (sound : worked.store.Sound) (announces : machine.engine.store.Announces worked.store)
    (engineAfter : after.engine = worked.release executor)
    (agendaAfter : after.agenda = new ++ rest)
    (agendaNew : ∀ activity ∈ new, activity.Usual ∨ activity.isRefill)
    (restNew : Usual (new ++ rest).tail)
    (given : ∀ target records, new.head? = some (.refill target records) →
      job = .cache ∧ target = executor)
    (deeds : ∀ deed ∈ later, deed.cache < machine.engine.nextId)
    (remembered : ∀ id, (job = .cache → id ≠ executor) →
      Deed.upToDate later id = Deed.upToDate history id)
    (own : job = .cache → ∀ cache, machine.engine.caches.get? executor = some cache →
      cache.isClosed = false → after.Followed later executor cache) :
    after.Tended later := by
  have caches : after.engine.caches = machine.engine.caches := by
    rw [engineAfter]
    exact congrArg Engine.Essence.caches same.essence
  have queueAfter : after.engine.queue = waiting := by
    rw [engineAfter]
    exact same.queue
  have announcesAfter : machine.engine.store.Announces after.engine.store := by
    rw [engineAfter]
    exact announces
  have generation : after.engine.generation = machine.engine.generation := by
    rw [engineAfter]
    exact same.generation
  have nextId : machine.engine.nextId ≤ after.engine.nextId := by
    rw [engineAfter]
    exact same.nextId
  constructor
  · rw [engineAfter]
    exact Engine.arranged_afterUnit tended.arranged queue same sound
  · rw [agendaAfter]
    intro activity member
    rcases List.mem_append.mp member with among | remains
    · exact agendaNew activity among
    · have others := tended.rest
      rw [agenda] at others
      exact Or.inl (others activity remains)
  · rw [agendaAfter]
    exact restNew
  · exact fun deed member => Nat.lt_of_lt_of_le (deeds deed member) nextId
  · intro id cache held isOpen
    rw [caches] at held
    by_cases ownCache : job = .cache ∧ id = executor
    · rcases ownCache with ⟨isCache, rfl⟩
      exact own isCache cache held isOpen
    · have other (isCache : job = .cache) : id ≠ executor := fun same => ownCache ⟨isCache, same⟩
      refine (tended.followed held isOpen).carry rfl rfl rfl ?_
        tended.arranged.store.wellFormed (announcesAfter.told cache.table) ?_ ?_
        (remembered id other) ?_
      · rintro ⟨number, waits⟩
        rw [queue] at waits
        rcases List.mem_cons.mp waits with head | waits
        · injection head with sameExecutor isCache
          exact absurd sameExecutor (other isCache.symm)
        · refine ⟨number, ?_⟩
          rwa [queueAfter]
      · exact fun batch waits _ => Or.inl (announcesAfter.outbox batch waits)
      · intro found member alerts
        rw [agenda] at member
        rcases List.mem_cons.mp member with rfl | remains
        · exact alerts.elim
        · refine Or.inr ⟨found, ?_, ?_⟩
          · rw [agendaAfter]
            exact List.mem_append_right _ remains
          · rwa [generation]
      · have before : machine.upcomingItems id cache = cache.items := by
          rw [upcomingItems, agenda]
        rw [before, upcomingItems, agendaAfter]
        split
        · -- Only the unit of a cache is followed by a refill, and it fills that cache.
          next target records others head =>
            apply if_neg
            rintro rfl
            cases new with
            | nil =>
                have usual := tended.rest
                rw [agenda] at usual
                change rest = _ at head
                exact usual (.refill target records) (by rw [head]; exact List.mem_cons_self)
            | cons first more =>
                rcases (List.cons.inj head) with ⟨rfl, _⟩
                rcases given target records rfl with ⟨isCache, sameExecutor⟩
                exact other isCache sameExecutor
        · rfl

/-- A unit after which nothing is given to a cache. -/
theorem Tended.of_usual_unit
    {ran executor clock : Nat} {job : Job} {rest new : List Activity} {waiting : List Task}
    (tended : machine.Tended history) (agenda : machine.agenda = .drain ran none :: rest)
    (queue : machine.engine.queue = .unit executor job clock :: waiting)
    (worked : Engine)
    (same : Engine.SameWork { machine.engine with queue := waiting, store := worked.store } worked)
    (sound : worked.store.Sound) (announces : machine.engine.store.Announces worked.store)
    (engineAfter : after.engine = worked.release executor)
    (agendaAfter : after.agenda = new ++ rest) (usual : Usual new)
    (deeds : ∀ deed ∈ later, deed.cache < machine.engine.nextId)
    (remembered : ∀ id, (job = .cache → id ≠ executor) →
      Deed.upToDate later id = Deed.upToDate history id)
    (own : job = .cache → ∀ cache, machine.engine.caches.get? executor = some cache →
      cache.isClosed = false → after.Followed later executor cache) :
    after.Tended later := by
  refine tended.of_unit agenda queue worked same sound announces engineAfter agendaAfter
    (fun activity among => Or.inl (usual activity among)) ?_ ?_ deeds remembered own
  · intro activity member
    exact tended.agenda_append agenda usual activity (List.mem_of_mem_tail member)
  · intro target records given
    exact (usual _ (List.mem_of_head? given)).elim

theorem Tended.drain_request
    {ran executor clock : Nat} {unit : WorkUnit} {rest : List Activity} {waiting : List Task}
    (tended : machine.Tended history) (agenda : machine.agenda = .drain ran none :: rest)
    (queue : machine.engine.queue = .unit executor (.request unit) clock :: waiting) :
    (Machine.drain { machine with agenda := rest } ran none).Tended history := by
  have oneShot : unit.request.isOneShot := by
    apply tended.arranged.tasks (.unit executor (.request unit) clock)
    rw [queue]
    exact List.mem_cons_self
  let begun : Engine := { machine.engine with queue := waiting }
  let working : Machine := { machine with agenda := rest }
  have queueNow : working.engine.queue = _ := queue
  have prepared : begun.unit? executor (.request unit) = some unit := rfl
  have sound : begun.store.Sound := tended.arranged.store
  have worked := Engine.ranUnit_runUnit sound oneShot clock
  have foreign : Job.request unit ≠ .cache := by
    intro same
    contradiction
  have others (outcome : Except Error Outcome) (failure? : Option Error) :
      Usual [.settle executor outcome, .flush, .drain (ran + 1) failure?] :=
    usual_cons trivial (usual_cons trivial (usual_cons trivial usual_nil))
  have of_outcome {after : Machine} (outcome : Except Error Outcome) (failure? : Option Error)
      (engineAfter : after.engine = (begun.runUnit unit clock).2.release executor)
      (agendaAfter :
        after.agenda = [.settle executor outcome, .flush, .drain (ran + 1) failure?] ++ rest) :
      after.Tended history := by
    exact tended.of_usual_unit agenda queue _ worked.same worked.sound worked.announces engineAfter
      agendaAfter (others outcome failure?) tended.deeds (fun _ _ => rfl) (absurd · foreign)
  rw [drain_unit queueNow]
  cases outcome : (begun.runUnit unit clock).1 with
  | ok answer =>
      rw [runUnit_of_ok (working.become begun) prepared outcome]
      exact of_outcome (.ok answer) none rfl rfl
  | error failure =>
      rw [runUnit_of_error (working.become begun) prepared outcome]
      exact of_outcome (.error failure.error) _ rfl rfl

theorem deed?_of_unit
    {ran executor clock : Nat} {rest : List Activity} {waiting : List Task}
    (agenda : machine.agenda = .drain ran none :: rest)
    (queue : machine.engine.queue = .unit executor .cache clock :: waiting) :
    machine.deed? =
      (({ machine.engine with queue := waiting } : Engine).unit? executor .cache).map fun unit =>
        .fetched executor
          (({ machine.engine with queue := waiting } : Engine).runUnit unit clock).1.isOk := by
  simp only [deed?, agenda, queue]

/-- A closed cache has no unit, and nothing is run for it. -/
theorem Tended.drain_closed
    {ran executor clock : Nat} {rest : List Activity} {waiting : List Task}
    (tended : machine.Tended history) (agenda : machine.agenda = .drain ran none :: rest)
    (queue : machine.engine.queue = .unit executor .cache clock :: waiting)
    (prepared : ({ machine.engine with queue := waiting } : Engine).unit? executor .cache = none) :
    (Machine.drain { machine with agenda := rest } ran none).Tended history := by
  let begun : Engine := { machine.engine with queue := waiting }
  let working : Machine := { machine with agenda := rest }
  have queueNow : working.engine.queue = _ := queue
  have goesOn : Usual [.drain (ran + 1) none] := usual_cons trivial usual_nil
  rw [drain_unit queueNow, runUnit_of_none (working.become begun) prepared]
  refine tended.of_usual_unit agenda queue begun (.of_essence rfl rfl) tended.arranged.store
    (.of_unchanged rfl rfl) rfl rfl goesOn tended.deeds (fun _ _ => rfl) ?_
  intro _ cache held isOpen
  have closed : cache.unit? = none := by
    have found : begun.caches.get? executor = some cache := held
    rwa [Engine.unit?, found] at prepared
  rw [ItemCache.unit?, isOpen] at closed
  contradiction

/-- A cache whose unit has run is given what its query answers, or its fetch has failed. -/
theorem Tended.drain_open
    {ran executor clock : Nat} {rest : List Activity} {waiting : List Task} {cache : ItemCache}
    (tended : machine.Tended history) (agenda : machine.agenda = .drain ran none :: rest)
    (queue : machine.engine.queue = .unit executor .cache clock :: waiting)
    (held : machine.engine.caches.get? executor = some cache)
    (prepared : ({ machine.engine with queue := waiting } : Engine).unit? executor .cache =
      some ⟨cache.table, cache.descriptor.mode, .query cache.descriptor⟩) :
    (Machine.drain { machine with agenda := rest } ran none).Tended
      (.fetched executor (({ machine.engine with queue := waiting } : Engine).runUnit
        ⟨cache.table, cache.descriptor.mode, .query cache.descriptor⟩ clock).1.isOk ::
          history) := by
  let begun : Engine := { machine.engine with queue := waiting }
  let working : Machine := { machine with agenda := rest }
  let unit : WorkUnit := ⟨cache.table, cache.descriptor.mode, .query cache.descriptor⟩
  have queueNow : working.engine.queue = _ := queue
  have sound : begun.store.Sound := tended.arranged.store
  have oneShot : unit.request.isOneShot := rfl
  have worked := Engine.ranUnit_runUnit sound oneShot clock
  rcases Engine.runUnit_query sound cache.reads cache.table clock with
    ⟨⟨monitor, now, made⟩, answers⟩
  have known (succeeded : Bool) :
      ∀ deed ∈ Deed.fetched executor succeeded :: history, deed.cache < machine.engine.nextId := by
    intro deed member
    rcases List.mem_cons.mp member with rfl | before
    · exact tended.arranged.numbered held
    · exact tended.deeds deed before
  have remembered (succeeded : Bool) (id : Nat) (other : Job.cache = .cache → id ≠ executor) :
      Deed.upToDate (.fetched executor succeeded :: history) id = Deed.upToDate history id :=
    Deed.upToDate_cons_other (fun same => other rfl same.symm) history
  rw [drain_unit queueNow]
  cases outcome : (begun.runUnit unit clock).1 with
  | error failure =>
      have goesOn : Usual [.flush, .drain (ran + 1) (Job.unhandled? .cache failure)] :=
        usual_cons trivial (usual_cons trivial usual_nil)
      rw [runUnit_of_error (working.become begun) prepared outcome]
      refine tended.of_usual_unit agenda queue _ worked.same worked.sound worked.announces rfl rfl
        goesOn (known false) (remembered false) ?_
      intro _ current heldCurrent _
      exact .stale (Deed.upToDate_cons_self (.fetched executor false) history)
  | ok answered =>
      rcases answers answered outcome with ⟨answer, rfl, compiled⟩
      have goesOn : Usual [.flush, .drain (ran + 1) none] :=
        usual_cons trivial (usual_cons trivial usual_nil)
      rw [runUnit_of_ok (working.become begun) prepared outcome]
      refine tended.of_unit agenda queue _ worked.same worked.sound worked.announces rfl rfl
        ?_ (tended.agenda_append agenda goesOn) ?_ (known true) (remembered true) ?_
      · intro activity member
        rcases List.mem_cons.mp member with rfl | among
        · exact Or.inr rfl
        · exact Or.inl (goesOn activity among)
      · intro target records given
        rcases Option.some.inj given with head
        injection head with sameTarget
        exact ⟨rfl, sameTarget.symm⟩
      · intro _ current heldCurrent _
        rcases Option.some.inj (held.symm.trans heldCurrent) with rfl
        have answeredThen : cache.descriptor.compiled?
            (begun.runUnit unit clock).2.store.tables cache.table = some answer := by
          rw [show (begun.runUnit unit clock).2 = _ from made]
          exact compiled
        exact .answered answeredThen (if_pos rfl)

theorem Tended.drain_cache
    {ran executor clock : Nat} {rest : List Activity} {waiting : List Task}
    (tended : machine.Tended history) (agenda : machine.agenda = .drain ran none :: rest)
    (queue : machine.engine.queue = .unit executor .cache clock :: waiting) :
    (Machine.drain { machine with agenda := rest } ran none).Tended
      (machine.chronicle history) := by
  have deed := deed?_of_unit agenda queue
  cases prepared :
      ({ machine.engine with queue := waiting } : Engine).unit? executor .cache with
  | none =>
      rw [prepared] at deed
      rw [chronicle_of_none deed]
      exact tended.drain_closed agenda queue prepared
  | some unit =>
      rw [prepared] at deed
      rw [chronicle_of_some deed]
      rcases Engine.of_unit?_cache prepared with ⟨cache, held, _, rfl⟩
      exact tended.drain_open agenda queue held prepared

theorem Tended.drain
    {ran : Nat} {failure? : Option Error} {rest : List Activity}
    (tended : machine.Tended history) (agenda : machine.agenda = .drain ran failure? :: rest) :
    (Machine.drain { machine with agenda := rest } ran failure?).Tended
      (machine.chronicle history) := by
  cases failure? with
  | some failure =>
      have nothing : machine.deed? = none := by
        simp only [deed?, agenda]
      rw [chronicle_of_none nothing]
      exact tended.of_pursues agenda trivial (pursues_say _ _) fun _ _ _ _ => False.elim
  | none =>
      cases queue : machine.engine.queue with
      | nil =>
          have nothing : machine.deed? = none := by
            simp only [deed?, agenda, queue]
          rw [chronicle_of_none nothing]
          have replies : Machine.drain { machine with agenda := rest } ran none =
              ({ machine with agenda := rest } : Machine).say (.drained (.ok ran)) := by
            simp only [Machine.drain, queue]
          rw [replies]
          exact tended.of_pursues agenda trivial (pursues_say _ _) fun _ _ _ _ => False.elim
      | cons task waiting =>
          have fetching : task.Fetching := by
            apply tended.arranged.tasks
            rw [queue]
            exact List.mem_cons_self
          cases task with
          | routine routine => exact fetching.elim
          | unit executor job clock =>
              cases job with
              | cache => exact tended.drain_cache agenda queue
              | request unit =>
                  have nothing : machine.deed? = none := by
                    simp only [deed?, agenda, queue]
                  rw [chronicle_of_none nothing]
                  exact tended.drain_request agenda queue
              | binding => exact fetching.elim
              | callback unit? target reports => exact fetching.elim

/-! ## Passing an alert on -/

theorem tell_alerts
    {id : Nat} {table : String} {listener : Listener} {batch : List Change}
    (alerts : (Activity.tell listener batch).AlertsCache machine.engine.generation id table) :
    ∃ due ∈ (machine.tell listener batch).agenda,
      due.AlertsCache machine.engine.generation id table := by
  cases listener with
  | callback target => exact alerts.elim
  | registry told =>
      rcases alerts with ⟨rfl, touched⟩
      refine ⟨.dispatch machine.engine.generation batch, ?_, rfl, touched⟩
      rw [tell, registryOf?_generation]
      exact List.mem_cons_self

theorem dispatch_alerts
    {generation told id : Nat} {table : String} {batch : List Change}
    (alerts : (Activity.dispatch told batch).AlertsCache generation id table) :
    ∃ due ∈ (machine.dispatch told batch).agenda, due.AlertsCache generation id table := by
  rcases alerts with ⟨rfl, touched⟩
  refine ⟨.visit told table, ?_, rfl, rfl⟩
  apply List.mem_append_left
  exact List.mem_map_of_mem (mem_touchedAfter touched List.not_mem_nil)

theorem visit_alerts
    {told id : Nat} {table visited : String}
    (alerts : (Activity.visit told visited).AlertsCache machine.engine.generation id table)
    (follows : machine.engine.Follows id table) :
    ∃ due ∈ (machine.visit told visited).agenda,
      due.AlertsCache machine.engine.generation id table := by
  rcases alerts with ⟨rfl, rfl⟩
  refine ⟨.alert (.cache id) visited, ?_, rfl⟩
  rw [visit, registryOf?_generation]
  apply List.mem_append_left
  apply List.mem_map_of_mem
  exact List.mem_map_of_mem (f := Prod.snd) follows.listed

theorem alert_awaits
    (arranged : machine.engine.Arranged) {generation id : Nat} {table visited : String}
    {watcher : Watcher} {cache : ItemCache}
    (alerts : (Activity.alert watcher visited).AlertsCache generation id table)
    (held : machine.engine.caches.get? id = some cache) (isOpen : cache.isClosed = false) :
    (machine.alert watcher visited).engine.AwaitsFetch id := by
  cases watcher with
  | cache other =>
      rcases alerts with rfl
      exact Engine.awaits_requestCache arranged held isOpen
  | binding other => exact alerts.elim
  | callback target => exact alerts.elim

/-! ## Every step -/

/-- Only the queue and commands that let a cache track ids do anything to what caches hold. -/
theorem deed?_of_quiet
    {activity : Activity} {rest : List Activity} (agenda : machine.agenda = activity :: rest)
    (notDrain : ∀ ran failure?, activity ≠ .drain ran failure?)
    (notTracking : ∀ command, activity = .perform command → command.isTracking = false) :
    machine.deed? = none := by
  rw [deed?, agenda]
  cases activity with
  | drain ran failure? => exact absurd rfl (notDrain ran failure?)
  | perform command =>
      have other := notTracking command rfl
      cases command with
      | cache command =>
          cases command with
          | track name ids => contradiction
          | _ => rfl
      | _ => rfl
  | _ => rfl

theorem Tended.of_quiet
    {activity : Activity} {rest : List Activity} (tended : machine.Tended history)
    (agenda : machine.agenda = activity :: rest) (usual : activity.Usual)
    (quiet : activity.IsQuiet) :
    (act { machine with agenda := rest } activity).Tended (machine.chronicle history) := by
  have nothing : machine.deed? = none := by
    apply deed?_of_quiet agenda
    · rintro ran failure? rfl
      exact quiet
    · rintro command rfl
      exact quiet
  rw [chronicle_of_none nothing]
  apply tended.of_pursues agenda usual (pursues_act quiet usual)
  intro id cache _ _ alerts
  cases activity with
  | tell | dispatch | visit | alert => exact quiet.elim
  | _ => exact alerts.elim

/-- One step of a tended machine leads to a tended machine. -/
theorem Tended.step
    (tended : machine.Tended history) (stepped : machine.step? = some after) :
    after.Tended (machine.chronicle history) := by
  rcases of_step? stepped with ⟨activity, rest, agenda, rfl⟩
  have first : activity.Usual ∨ activity.isRefill := by
    apply tended.agenda
    rw [agenda]
    exact List.mem_cons_self
  let working : Machine := { machine with agenda := rest }
  have silent (other : ∀ ran failure?, activity ≠ .drain ran failure?)
      (still : ∀ command, activity ≠ .perform command) :
      machine.chronicle history = history :=
    chronicle_of_none (deed?_of_quiet agenda other fun command same => absurd same (still command))
      history
  -- Activities that alert a cache have to pass the alert on, and are taken one by one.
  cases activity with
  | drain ran failure? => exact tended.drain agenda
  | refill id records =>
      rw [silent (by simp) (by simp)]
      exact tended.refill agenda
  | deliver delivered =>
      rw [silent (by simp) (by simp)]
      cases outbox : machine.engine.store.outbox with
      | nil =>
          have pursues := pursues_deliver_nothing working outbox delivered
          exact tended.of_pursues agenda trivial pursues fun _ _ _ _ => False.elim
      | cons batch waiting => exact tended.deliver agenda outbox
  | tell listener batch =>
      have fetching : listener.Fetching := first.resolve_right nofun
      rw [silent (by simp) (by simp)]
      apply tended.of_pursues agenda fetching (pursues_tell fetching batch)
      intro id cache held isOpen alerts
      have alertsWorking :
          (Activity.tell listener batch).AlertsCache working.engine.generation id cache.table :=
        alerts
      exact Or.inr (tell_alerts alertsWorking)
  | dispatch generation batch =>
      rw [silent (by simp) (by simp)]
      apply tended.of_pursues agenda trivial (pursues_dispatch working generation batch)
      intro id cache held isOpen alerts
      exact Or.inr (dispatch_alerts alerts)
  | visit generation table =>
      rw [silent (by simp) (by simp)]
      apply tended.of_pursues agenda trivial (pursues_visit working generation table)
      intro id cache held isOpen alerts
      have alertsWorking :
          (Activity.visit generation table).AlertsCache working.engine.generation id cache.table :=
        alerts
      have follows : working.engine.Follows id cache.table :=
        tended.arranged.watching held isOpen
      exact Or.inr (visit_alerts alertsWorking follows)
  | alert watcher table =>
      have fetching : watcher.Fetching := first.resolve_right nofun
      rw [silent (by simp) (by simp)]
      apply tended.of_pursues agenda fetching (pursues_alert fetching table)
      intro id cache held isOpen alerts
      have arranged : working.engine.Arranged := tended.arranged
      exact Or.inl (alert_awaits arranged alerts held isOpen)
  | perform command =>
      have fetching : command.Fetching := first.resolve_right nofun
      cases tracking : command.isTracking with
      | false => exact tended.of_quiet agenda fetching tracking
      | true =>
          cases command with
          | cache command =>
              cases command with
              | track name ids => exact tended.track agenda
              | _ => contradiction
          | _ => contradiction
  | _ => exact tended.of_quiet agenda (first.resolve_right nofun) trivial

end Machine

end LiveTable
