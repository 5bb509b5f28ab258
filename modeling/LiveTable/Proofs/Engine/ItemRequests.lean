import LiveTable.Proofs.Engine.Fates

/-!
# What item requests are answered with

A request for an id that a cache does not track yet makes the cache track it and lets the
callback wait for the next fetch.  A fetch selects whatever is tracked when it runs, so it selects
the id.  If it succeeds all who wait are answered from the records that it found, one after
another; if it fails they wait on.
-/

set_option autoImplicit false

namespace LiveTable

/-- The records that a fetch of a cache found, by id. -/
def ItemCache.found (cache : ItemCache) (result : QueryResult) : Items :=
  .collect cache.idField (result.records?.getD [])

/-- An open cache that is asked for a fetch has one in the queue, if only an earlier one. -/
theorem Engine.isBusy_requestCache {engine : Engine} {id : Nat} {cache : ItemCache}
    (held : engine.caches.get? id = some cache) (isOpen : cache.isClosed = false) :
    (engine.requestCache id).2.isBusy id := by
  rw [requestCache, held]
  simp only [isOpen, Bool.false_eq_true, if_false]
  rw [schedule]
  split
  · next busy => exact busy
  · exact List.contains_iff_mem.mpr List.mem_cons_self

/-- The request that an activity answers, with the number of the callback. -/
def Activity.serves? : Activity → Option (Value × Nat)
  | .serveItem _ item callback => some (item, callback.id)
  | _ => none

namespace Machine

variable {first machine after : Machine} {past since : List Machine} {id number : Nat}
  {item : Value}

/-! ## Fetches -/

/-- The cache and the result of a fetch of it that succeeds with the next step. -/
def fetched? (id : Nat) (machine : Machine) : Option (ItemCache × QueryResult) :=
  machine.success?.bind fun success =>
    if success.owner = .cache id then
      (machine.engine.caches.get? id).map (·, success.result)
    else none

/-- The fetches of a cache that succeeded. -/
def fetches (id : Nat) (past : List Machine) : List (ItemCache × QueryResult) :=
  gather (fetched? id) past

/-- A fetch selects what its cache tracks then. -/
theorem of_fetched {cache : ItemCache} {result : QueryResult}
    (fetched : fetched? id machine = some (cache, result)) :
    machine.engine.caches.get? id = some cache ∧ cache.isClosed = false ∧
      machine.success? =
        some ⟨.cache id, ⟨cache.table, .readOnly, .query cache.descriptor⟩, result⟩ := by
  rcases Option.bind_eq_some_iff.mp fetched with ⟨⟨owner, unit, answer⟩, succeeds, own⟩
  split at own
  · next is =>
      rcases Option.map_eq_some_iff.mp own with ⟨current, held, same⟩
      rcases Prod.mk.inj same with ⟨rfl, rfl⟩
      rcases cache_of_success succeeds is with ⟨other, heldToo, prepared⟩
      rcases Option.some.inj (held.symm.trans heldToo) with rfl
      rw [ItemCache.unit?] at prepared
      split at prepared
      · contradiction
      · next isOpen =>
          refine ⟨held, Bool.eq_false_iff.mpr isOpen, ?_⟩
          rw [succeeds, Option.some.inj prepared, show owner = .cache id from is]
  · contradiction

theorem fetched?_eq_none (noSuccess : machine.success? = none) : fetched? id machine = none := by
  rw [fetched?, noSuccess, Option.bind_none]

/-! ## Requests that are being answered -/

/-- The requests that are about to be answered, with the numbers of their callbacks. -/
def serving (activities : List Activity) : List (Value × Nat) :=
  activities.filterMap Activity.serves?

@[simp]
theorem serving_append (former latter : List Activity) :
    serving (former ++ latter) = serving former ++ serving latter :=
  List.filterMap_append

theorem serving_agenda (activities : List Activity) :
    serving activities =
      (activities.head?.bind Activity.serves?).toList ++ serving activities.tail := by
  cases activities with
  | nil => rfl
  | cons head rest =>
      rw [serving, List.filterMap_cons, List.head?_cons, Option.bind_some, List.tail_cons]
      cases head.serves? <;> rfl

/-- Whoever is about to be answered stands with the cache that he asked. -/
theorem stands_of_serving {activities : List Activity} {waits : Value × Nat}
    (within : ∀ activity ∈ activities, activity ∈ machine.agenda)
    (member : waits ∈ serving activities) : ∃ cache, machine.Stands (.requester cache) waits.2 := by
  rcases List.mem_filterMap.mp member with ⟨activity, listed, serves⟩
  cases activity with
  | serveItem cache item callback =>
      rcases Option.some.inj serves with rfl
      exact ⟨cache, .served (within _ listed)⟩
  | _ => contradiction

/-- What comes in front of the agenda answers only those who waited for a fetch. -/
theorem serving_of_comes {added : List Activity} (belongs : machine.Belongs (.requester id) number)
    (comes : ∀ activity ∈ added, activity.Comes machine)
    (not : ∀ records, machine.agenda.head? ≠ some (.refill id records)) :
    (serving added).filter (·.2 == number) = [] := by
  refine List.filter_eq_nil_iff.mpr fun waits member same => ?_
  rcases List.mem_filterMap.mp member with ⟨activity, listed, serves⟩
  cases comes activity listed with
  | ordinary ordinary =>
      cases activity with
      | serveItem _ _ _ => exact ordinary.elim
      | _ => contradiction
  | follows follows =>
      cases activity with
      | serveItem cache item callback =>
          rcases Option.some.inj serves with rfl
          rcases beq_iff_eq.mp same with rfl
          rcases follows with ⟨⟨records, refills⟩, waiting⟩
          have stands : machine.Stands (.requester cache) callback.id :=
            .there (.inl (List.mem_map_of_mem waiting))
          rw [Post.requester.inj (belongs.place _ stands)] at refills
          exact not records refills
      | _ => contradiction
  | renews renews => cases activity <;> contradiction
  | calls => contradiction

/-- Only a refill changes what a cache holds and who waits for it, unless it is closed. -/
theorem TurnsTo.cache (turns : machine.TurnsTo after)
    (not : ∀ records, machine.agenda.head? ≠ some (.refill id records)) :
    after.engine.itemsOf id = machine.engine.itemsOf id ∧
      ∀ number < machine.engine.nextId,
        (ItemCache.requestsOf (after.engine.caches.get? id)).filter (·.2 == number) =
            (ItemCache.requestsOf (machine.engine.caches.get? id)).filter (·.2 == number) ∨
          after.engine.hasClosedCache id ∧
            (ItemCache.requestsOf (after.engine.caches.get? id)).filter (·.2 == number) = [] := by
  have kept (renewsNot : machine.renews? ≠ some id) :=
    And.intro ((turns.retains.caches id).items renewsNot)
      ((turns.retains.caches id).requests renewsNot)
  have same (caches : after.engine.caches = machine.engine.caches) :
      after.engine.itemsOf id = machine.engine.itemsOf id ∧
        ∀ number < machine.engine.nextId,
          (ItemCache.requestsOf (after.engine.caches.get? id)).filter (·.2 == number) =
              (ItemCache.requestsOf (machine.engine.caches.get? id)).filter (·.2 == number) ∨
            after.engine.hasClosedCache id ∧
              (ItemCache.requestsOf (after.engine.caches.get? id)).filter (·.2 == number) = [] := by
    rw [Engine.itemsOf, caches]
    exact ⟨rfl, fun _ _ => .inl rfl⟩
  cases agenda : machine.agenda with
  | nil => exact kept (by simp [renews?, agenda])
  | cons activity rest =>
      cases activity with
      | refresh target result =>
          refine same ?_
          rw [turns.turn.does agenda rfl, act, refresh]
          split
          · rfl
          · split <;> rfl
      | refill target records =>
          refine kept ?_
          rw [renews?, agenda]
          rintro ⟨⟩
          exact not records (by rw [agenda]; rfl)
      | _ => exact kept (by simp [renews?, agenda])

/-- A refill gives a cache its records, and has those answered who waited. -/
theorem refill_fills {records : List Record} {rest : List Activity} {cache : ItemCache}
    (agenda : machine.agenda = .refill id records :: rest)
    (held : machine.engine.caches.get? id = some cache) (turn : machine.Turn after) :
    after.engine.itemsOf id = .collect cache.idField records ∧
      after.engine.posted (.requester id) = [] ∧
      serving after.agenda = ItemCache.requestsOf (some cache) ++ serving rest := by
  rw [turn.does agenda rfl, act]
  simp only [refill, held]
  refine ⟨?_, ?_, ?_⟩
  · change ((machine.engine.modifyCache id _).caches.get? id).elim _ _ = _
    rw [Engine.get?_modifyCache, if_pos rfl, held]
    rfl
  · change (ItemCache.requestsOf ((machine.engine.modifyCache id _).caches.get? id)).map _ = _
    rw [Engine.get?_modifyCache, if_pos rfl, held]
    rfl
  · change serving (cache.waiting.map _ ++ [.spread id] ++ rest) = _
    rw [serving_append, serving_append, serving, List.filterMap_map, ItemCache.requestsOf,
      ← List.filterMap_eq_map]
    exact congrArg (· ++ _) (List.append_nil _)

/-! ## What becomes of a request -/

/-- How far it has come with a request for an item. -/
inductive Requesting (id : Nat) (item : Value) (number : Nat) (machine : Machine)
    (since : List Machine) : Prop where
  /-- No fetch has succeeded, and the callback waits, unless the cache is closed. -/
  | waits (none : fetches id since = []) (silent : account number machine since = [])
      (unserved : (serving machine.agenda).filter (·.2 == number) = [])
      (requests : (ItemCache.requestsOf (machine.engine.caches.get? id)).filter (·.2 == number) =
        [(item, number)] ∨ machine.engine.hasClosedCache id)
      (calm : ∀ records, machine.agenda.head? ≠ some (.refill id records))
  /-- The first fetch has succeeded, and its records are given to the cache. -/
  | fetched {cache : ItemCache} {result : QueryResult}
      (first : (fetches id since).head? = some (cache, result))
      (silent : account number machine since = [])
      (unserved : (serving machine.agenda).filter (·.2 == number) = [])
      (requests : (ItemCache.requestsOf (some cache)).filter (·.2 == number) = [(item, number)])
      (held : machine.engine.caches.get? id = some cache)
      (fills : machine.agenda.head? = some (.refill id (result.records?.getD [])))
  /-- The request is about to be answered from those records. -/
  | served {cache : ItemCache} {result : QueryResult}
      (first : (fetches id since).head? = some (cache, result))
      (silent : account number machine since = [])
      (serves : (serving machine.agenda).filter (·.2 == number) = [(item, number)])
      (left : number ∉ machine.engine.posted (.requester id))
      (held : (machine.engine.caches.get? id).isSome)
      (items : machine.engine.itemsOf id = cache.found result)
      (calm : ∀ records, machine.agenda.head? ≠ some (.refill id records))
  /-- The callback is called next, or it was called. -/
  | answered {cache : ItemCache} {result : QueryResult}
      (first : (fetches id since).head? = some (cache, result))
      (once : account number machine since =
        [(number, .item ((cache.found result).find? item))])
      (nowhere : ∀ post, ¬ machine.Stands post number)
      (next : (due machine.agenda.tail).filter (·.1 == number) = [])

section Requests

variable {cache : ItemCache} {result : QueryResult}

/-- A callback is given its answer only when its request is served. -/
theorem gives_of_unserved (belongs : machine.Belongs (.requester id) number)
    (unserved : ∀ cache item callback,
      machine.agenda.head? = some (.serveItem cache item callback) → callback.id ≠ number) :
    machine.gives.filter (·.1 == number) = [] := by
  refine List.filter_eq_nil_iff.mpr fun call given same => ?_
  rcases beq_iff_eq.mp same with rfl
  rcases givesTo_of_mem given with ⟨post, gives⟩
  have is := belongs.place post gives.stands
  cases gives with
  | requester head numbered => exact unserved _ _ _ head numbered
  | _ => contradiction

theorem unserved_of_mem (unserved : (serving machine.agenda).filter (·.2 == number) = [])
    {cache : Nat} {item : Value} {callback : Callback}
    (listed : .serveItem cache item callback ∈ machine.agenda) : callback.id ≠ number := by
  intro numbered
  refine List.filter_eq_nil_iff.mp unserved (item, callback.id) ?_ (beq_iff_eq.mpr numbered)
  exact List.mem_filterMap.mpr ⟨_, listed, rfl⟩

theorem unserved_head (unserved : (serving machine.agenda).filter (·.2 == number) = [])
    (cache : Nat) (item : Value) (callback : Callback)
    (head : machine.agenda.head? = some (.serveItem cache item callback)) :
    callback.id ≠ number :=
  unserved_of_mem unserved (List.mem_of_mem_head? head)

/-- Nobody comes to be served but by a refill. -/
theorem unserved_after (belongs : machine.Belongs (.requester id) number)
    (turn : machine.Turn after)
    (unserved : (serving machine.agenda.tail).filter (·.2 == number) = [])
    (calm : ∀ records, machine.agenda.head? ≠ some (.refill id records)) :
    (serving after.agenda).filter (·.2 == number) = [] := by
  rcases turn.comes with ⟨added, agenda, comes⟩
  rw [agenda, serving_append, List.filter_append, serving_of_comes belongs comes calm, unserved]
  rfl

theorem unserved_tail (unserved : (serving machine.agenda).filter (·.2 == number) = []) :
    (serving machine.agenda.tail).filter (·.2 == number) = [] := by
  rw [serving_agenda, List.filter_append, List.append_eq_nil_iff] at unserved
  exact unserved.2

/-- A result that is passed on to a cache is that of a fetch. -/
theorem SucceedsTo.fetched {success : Success} (succeeds : machine.SucceedsTo success after) :
    (fetched? id machine = none ∧ ∀ records, after.agenda.head? ≠ some (.refill id records)) ∨
      ∃ cache result, fetched? id machine = some (cache, result) ∧
        after.agenda.head? = some (.refill id (result.records?.getD [])) := by
  rcases succeeds.agenda with ⟨ran, rest, _, goesOn⟩
  rw [goesOn, List.head?_cons, fetched?, succeeds.succeeds, Option.bind_some]
  rcases success with ⟨owner, unit, result⟩
  cases owner with
  | binding target => exact .inl ⟨rfl, fun _ => nofun⟩
  | cache target =>
      by_cases same : target = id
      · subst same
        rcases cache_of_success succeeds.succeeds rfl with ⟨cache, held, _⟩
        refine .inr ⟨cache, result, ?_, rfl⟩
        rw [if_pos rfl, held, Option.map_some]
      · refine .inl ⟨if_neg fun is => same (Owner.cache.inj is), fun records is => ?_⟩
        exact same (Activity.refill.inj (Option.some.inj is)).1

/-- Either a fetch of a cache succeeds, or nothing is about to refill it. -/
theorem Turn.fetched (turn : machine.Turn after) (regular : machine.Regular) (id : Nat) :
    (fetched? id machine = none ∧ ∀ records, after.agenda.head? ≠ some (.refill id records)) ∨
      ∃ cache result, fetched? id machine = some (cache, result) ∧
        after.agenda.head? = some (.refill id (result.records?.getD [])) ∧
        after.engine.caches = machine.engine.caches := by
  rcases turn.results regular.results with ⟨noSuccess, quiet⟩ | ⟨success, succeeds⟩
  · refine .inl ⟨fetched?_eq_none noSuccess, fun records head => ?_⟩
    exact absurd (quiet _ (List.mem_of_mem_head? head)) nofun
  · refine succeeds.fetched.imp_right fun ⟨cache, result, fetched, fills⟩ => ?_
    exact ⟨cache, result, fetched, fills, succeeds.caches⟩

theorem fetches_cons (id : Nat) (machine : Machine) (since : List Machine) :
    fetches id (machine :: since) = fetches id since ++ (fetched? id machine).toList :=
  gather_cons ..

/-- The first fetch stays the first. -/
theorem head?_fetches_cons (first : (fetches id since).head? = some (cache, result))
    (machine : Machine) : (fetches id (machine :: since)).head? = some (cache, result) := by
  rw [fetches_cons, List.head?_append, first, Option.some_or]

theorem requesting_of_waits (regular : machine.Regular)
    (belongs : machine.Belongs (.requester id) number) (turns : machine.TurnsTo after)
    (none : fetches id since = []) (silent : account number machine since = [])
    (unserved : (serving machine.agenda).filter (·.2 == number) = [])
    (requests : (ItemCache.requestsOf (machine.engine.caches.get? id)).filter (·.2 == number) =
      [(item, number)] ∨ machine.engine.hasClosedCache id)
    (calm : ∀ records, machine.agenda.head? ≠ some (.refill id records)) :
    Requesting id item number after (machine :: since) := by
  have silentAfter : account number after (machine :: since) = [] := by
    rw [belongs.account_of_gives (by simp) turns.turn
      (gives_of_unserved belongs (unserved_head unserved)), silent]
  have unservedAfter := unserved_after belongs turns.turn (unserved_tail unserved) calm
  rcases turns.turn.fetched regular id with
    ⟨not, calmAfter⟩ | ⟨cache, result, fetched, fills, same⟩
  · refine .waits ?_ silentAfter unservedAfter ?_ calmAfter
    · rw [fetches_cons, none, not]
      rfl
    · rcases (turns.cache calm).2 number belongs.given with kept | ⟨closed, _⟩
      · rw [kept]
        exact requests.imp_right (turns.retains.caches id).closed
      · exact .inr closed
  · rcases of_fetched fetched with ⟨held, isOpen, _⟩
    have notClosed : ¬ machine.engine.hasClosedCache id := by
      rw [Engine.hasClosedCache, held, Option.any_some, isOpen]
      exact Bool.false_ne_true
    have waiting := requests.resolve_right notClosed
    rw [held] at waiting
    refine .fetched ?_ silentAfter unservedAfter waiting (same ▸ held) fills
    rw [fetches_cons, none, fetched]
    rfl

theorem requesting_of_fetched (regular : machine.Regular)
    (belongs : machine.Belongs (.requester id) number) (turns : machine.TurnsTo after)
    (first : (fetches id since).head? = some (cache, result))
    (silent : account number machine since = [])
    (unserved : (serving machine.agenda).filter (·.2 == number) = [])
    (requests : (ItemCache.requestsOf (some cache)).filter (·.2 == number) = [(item, number)])
    (held : machine.engine.caches.get? id = some cache)
    (fills : machine.agenda.head? = some (.refill id (result.records?.getD []))) :
    Requesting id item number after (machine :: since) := by
  rcases List.head?_eq_some_iff.mp fills with ⟨rest, agenda⟩
  rcases refill_fills agenda held turns.turn with ⟨items, nobody, serves⟩
  have stays : (after.engine.caches.get? id).isSome :=
    (turns.retains.caches id).held (held ▸ rfl)
  refine .served (head?_fetches_cons first machine) ?_ ?_ ?_ stays items ?_
  · rw [belongs.account_of_gives (by simp) turns.turn
      (gives_of_unserved belongs (unserved_head unserved)), silent]
  · have none := unserved_tail unserved
    rw [agenda, List.tail_cons] at none
    rw [serves, List.filter_append, requests, none]
    rfl
  · rw [nobody]
    exact List.not_mem_nil
  · rcases turns.turn.fetched regular id with ⟨_, calm⟩ | ⟨_, _, fetched, _⟩
    · exact calm
    · have drains := drains_of_success (of_fetched fetched).2.2
      rw [Machine.drains, agenda] at drains
      exact absurd drains Bool.false_ne_true

/-- A request is served: its callback is called next, with the record that was found. -/
theorem requesting_of_serveItem {served : Value} {callback : Callback} {rest : List Activity}
    (belongs : machine.Belongs (.requester id) callback.id) (turns : machine.TurnsTo after)
    (first : (fetches id since).head? = some (cache, result))
    (silent : account callback.id machine since = [])
    (serves : (serving machine.agenda).filter (·.2 == callback.id) = [(item, callback.id)])
    (left : callback.id ∉ machine.engine.posted (.requester id))
    (held : (machine.engine.caches.get? id).isSome)
    (items : machine.engine.itemsOf id = cache.found result)
    (agenda : machine.agenda = .serveItem id served callback :: rest) :
    Requesting id item callback.id after (machine :: since) := by
  have own {Told : Type} (told : Told) (others : List (Nat × Told)) :
      ((callback.id, told) :: others).filter (·.1 == callback.id) =
        (callback.id, told) :: others.filter (·.1 == callback.id) :=
    List.filter_cons_of_pos (beq_self_eq_true callback.id)
  have asked (others : List (Value × Nat)) :
      ((served, callback.id) :: others).filter (·.2 == callback.id) =
        (served, callback.id) :: others.filter (·.2 == callback.id) :=
    List.filter_cons_of_pos (beq_self_eq_true callback.id)
  rw [agenda] at serves
  change List.filter _ ((served, callback.id) :: serving rest) = _ at serves
  rw [asked] at serves
  rcases List.cons.inj serves with ⟨same, none⟩
  rcases (Prod.mk.inj same).1 with rfl
  have gives : machine.gives =
      [(callback.id, .item ((machine.engine.itemsOf id).find? served))] := by
    rw [Machine.gives, agenda]
    exact if_pos held
  rw [account_eq, agenda, List.tail_cons, List.append_eq_nil_iff] at silent
  have calm (records : List Record) : machine.agenda.head? ≠ some (.refill id records) := by
    simp [agenda]
  have unservedAfter : (serving after.agenda).filter (·.2 == callback.id) = [] :=
    unserved_after belongs turns.turn (by rw [agenda]; exact none) calm
  rcases Option.isSome_iff_exists.mp held with ⟨current, heldCache⟩
  have goesOn : after.agenda =
      .call callback (.item (current.items.find? served)) :: rest := by
    rw [turns.turn.does agenda rfl, act]
    simp only [serveItem, heldCache]
    rfl
  refine .answered (head?_fetches_cons first machine) ?_ ?_ ?_
  · rw [belongs.account (by simp) turns.turn, silent.1, gives, items, agenda, List.tail_cons,
      silent.2, own]
    rfl
  · intro post stands
    rcases belongs.place post (belongs.stood turns stands) with rfl
    rcases stands.of_requester with posted | ⟨item, other, listed, numbered⟩
    · rw [turns.turn.does agenda rfl, act, engine_serveItem] at posted
      exact left posted
    · exact unserved_of_mem unservedAfter listed numbered
  · rw [goesOn, List.tail_cons]
    exact silent.2

theorem requesting_of_served (regular : machine.Regular)
    (belongs : machine.Belongs (.requester id) number) (turns : machine.TurnsTo after)
    (first : (fetches id since).head? = some (cache, result))
    (silent : account number machine since = [])
    (serves : (serving machine.agenda).filter (·.2 == number) = [(item, number)])
    (left : number ∉ machine.engine.posted (.requester id))
    (held : (machine.engine.caches.get? id).isSome)
    (items : machine.engine.itemsOf id = cache.found result)
    (calm : ∀ records, machine.agenda.head? ≠ some (.refill id records))
    (undisturbed : machine.drains → ∀ waits ∈ serving machine.agenda, waits.2 ≠ number) :
    Requesting id item number after (machine :: since) := by
  by_cases isServed : ∃ target asked callback,
      machine.agenda.head? = some (.serveItem target asked callback) ∧ callback.id = number
  · rcases isServed with ⟨target, asked, callback, head, rfl⟩
    rcases List.head?_eq_some_iff.mp head with ⟨rest, agenda⟩
    have stands : machine.Stands (.requester target) callback.id :=
      .served (List.mem_of_mem_head? head)
    rw [Post.requester.inj (belongs.place _ stands)] at agenda
    exact requesting_of_serveItem belongs turns first silent serves left held items agenda
  · have unserved (target : Nat) (asked : Value) (callback : Callback)
        (head : machine.agenda.head? = some (.serveItem target asked callback)) :
        callback.id ≠ number :=
      fun numbered => isServed ⟨target, asked, callback, head, numbered⟩
    have headServes : ((machine.agenda.head?.bind Activity.serves?).toList).filter
        (·.2 == number) = [] := by
      refine List.filter_eq_nil_iff.mpr fun waits member same => ?_
      rcases Option.bind_eq_some_iff.mp (Option.mem_toList.mp member) with ⟨activity, head, is⟩
      cases activity with
      | serveItem target asked callback =>
          rcases Option.some.inj is with rfl
          exact unserved target asked callback head (beq_iff_eq.mp same)
      | _ => contradiction
    have drainsNot : fetched? id machine = none := by
      cases fetched : fetched? id machine with
      | none => rfl
      | some found =>
          have drains := drains_of_success (of_fetched fetched).2.2
          have member : (item, number) ∈ serving machine.agenda :=
            List.mem_of_mem_filter (serves ▸ List.mem_singleton_self _)
          exact absurd rfl (undisturbed drains _ member)
    refine .served (head?_fetches_cons first machine) ?_ ?_ ?_
      ((turns.retains.caches id).held held) ?_ ?_
    · rw [belongs.account_of_gives (by simp) turns.turn (gives_of_unserved belongs unserved),
        silent]
    · rcases turns.turn.comes with ⟨added, agenda, comes⟩
      rw [serving_agenda, List.filter_append, headServes, List.nil_append] at serves
      rw [agenda, serving_append, List.filter_append, serving_of_comes belongs comes calm, serves]
      rfl
    · intro posted
      rcases (turns.retains.caches id).requesters.mem posted with old | ⟨low, _⟩
      · exact left old
      · exact absurd belongs.given (Nat.not_lt_of_le low)
    · rw [(turns.cache calm).1, items]
    · rcases turns.turn.fetched regular id with ⟨_, calm⟩ | ⟨_, _, fetched, _⟩
      · exact calm
      · exact absurd (drainsNot.symm.trans fetched) nofun

theorem requesting_of_answered (turns : machine.TurnsTo after)
    (belongs : machine.Belongs (.requester id) number)
    (first : (fetches id since).head? = some (cache, result))
    (once : account number machine since = [(number, .item ((cache.found result).find? item))])
    (nowhere : ∀ post, ¬ machine.Stands post number)
    (next : (due machine.agenda.tail).filter (·.1 == number) = []) :
    Requesting id item number after (machine :: since) := by
  have onceAfter :=
    (belongs.account_of_gives (by simp) turns.turn (gives_of_nowhere nowhere)).trans once
  refine .answered (head?_fetches_cons first machine) onceAfter
    (fun post stands => nowhere post (belongs.stood turns stands)) ?_
  -- The call was next, so it has been made.
  have made : (calls (machine :: since)).filter (·.1 == number) =
      [(number, .item ((cache.found result).find? item))] := by
    rw [account_eq, next, List.append_nil] at once
    rw [calls, gather_cons, ← calls, once]
  rw [account, List.filter_append, made] at onceAfter
  have none : (due after.agenda).filter (·.1 == number) = [] := (List.cons.inj onceAfter).2
  rw [due_agenda, List.filter_append, List.append_eq_nil_iff] at none
  exact none.2

theorem Requesting.goes (requesting : Requesting id item number machine since)
    (regular : machine.Regular) (belongs : machine.Belongs (.requester id) number)
    (turns : machine.TurnsTo after)
    (undisturbed : machine.drains → ∀ waits ∈ serving machine.agenda, waits.2 ≠ number) :
    Requesting id item number after (machine :: since) := by
  cases requesting with
  | waits none silent unserved requests calm =>
      exact requesting_of_waits regular belongs turns none silent unserved requests calm
  | fetched first silent unserved requests held fills =>
      exact requesting_of_fetched regular belongs turns first silent unserved requests held fills
  | served first silent serves left held items calm =>
      exact requesting_of_served regular belongs turns first silent serves left held items calm
        undisturbed
  | answered first once nowhere next =>
      exact requesting_of_answered turns belongs first once nowhere next

end Requests

/-- No task is run on the way while the request of a callback is about to be answered. -/
def Uninterrupted (number : Nat) (passed : List Machine) : Prop :=
  ∀ machine ∈ passed, machine.drains → ∀ waits ∈ serving machine.agenda, waits.2 ≠ number

theorem Requesting.leads (initially : Requesting id item number first [])
    (regular : first.Regular) (belongs : first.Belongs (.requester id) number)
    (leads : first.Leads machine since) (undisturbed : Uninterrupted number since) :
    Requesting id item number machine since := by
  induction leads with
  | refl => exact initially
  | next leads goes ih =>
      rcases List.forall_mem_cons.mp undisturbed with ⟨now, earlier⟩
      have before := regular.leads leads
      exact (ih earlier).goes before (belongs.leads regular leads) (goes.turn before.apart) now

/-- What a cache tracks it goes on to track. -/
theorem tracked_of_leads (regular : first.Regular) (leads : first.Leads machine since)
    (tracked : (first.engine.caches.get? id).any (·.tracked.contains item)) :
    (machine.engine.caches.get? id).any (·.tracked.contains item) := by
  induction leads with
  | refl => exact tracked
  | next leads goes ih =>
      exact ((goes.turn (regular.leads leads).apart).retains.caches id).tracked item ih

/-- A fetch that has succeeded since an id was tracked has selected it. -/
theorem selected_of_leads {cache : ItemCache} {result : QueryResult} (regular : first.Regular)
    (leads : first.Leads machine since)
    (tracked : (first.engine.caches.get? id).any (·.tracked.contains item))
    (fetched : (cache, result) ∈ fetches id since) :
    cache.tracked.contains item ∧ ∃ fetching ∈ since, fetching.success? =
      some ⟨.cache id, ⟨cache.table, .readOnly, .query cache.descriptor⟩, result⟩ := by
  rcases List.mem_filterMap.mp fetched with ⟨fetching, member, fetched⟩
  have member := List.mem_reverse.mp member
  rcases of_fetched fetched with ⟨held, _, succeeds⟩
  refine ⟨?_, fetching, member, succeeds⟩
  rcases List.append_of_mem member with ⟨newer, older, rfl⟩
  have tracks := tracked_of_leads regular leads.split.1 tracked
  rwa [held, Option.any_some] at tracks

/-! ## Requests -/

section Asking

variable {asking next : Machine} {before : List Machine} {requestName : String}
  {reaction : Reaction Command} {cache : ItemCache} {rest : List Activity}

/-- A request for an id that is tracked is answered at once. -/
theorem request_answers (found : asking.engine.cache? requestName = some (id, cache))
    (agenda : asking.agenda =
      .perform (.cache (.request requestName item (some reaction))) :: rest)
    (stepped : asking.step? = some next) (tracked : cache.tracked.contains item) :
    next.engine.caches = asking.engine.caches ∧
      next.agenda = .call ⟨asking.engine.nextId, reaction⟩ (.item (cache.items.find? item)) ::
        .answer (.record (cache.items.find? item)) :: .letGo (.object id) :: rest := by
  rcases of_step? stepped with ⟨activity, others, is, rfl⟩
  rcases List.cons.inj (agenda.symm.trans is) with ⟨rfl, rfl⟩
  simp only [act, perform, performCache, withCache, found, tracked, if_true]
  exact ⟨rfl, rfl⟩

/-- A request for an id that is not tracked yet makes its callback wait. -/
theorem request_waits (found : asking.engine.cache? requestName = some (id, cache))
    (agenda : asking.agenda =
      .perform (.cache (.request requestName item (some reaction))) :: rest)
    (stepped : asking.step? = some next) (trackedNot : cache.tracked.contains item = false) :
    next.agenda = rest ∧ next.reply = .record none ∧
      (cache.isClosed = false → next.engine.isBusy id) ∧
      next.engine.caches.get? id = some { cache with
        tracked := cache.tracked.add item
        waiting := cache.waiting ++ [(item, ⟨asking.engine.nextId, reaction⟩)] } := by
  have held : asking.engine.caches.get? id = some cache := Engine.held_of_cache? found
  rcases of_step? stepped with ⟨activity, others, is, rfl⟩
  rcases List.cons.inj (agenda.symm.trans is) with ⟨rfl, rfl⟩
  simp only [act, perform, performCache, withCache, found, trackedNot, Bool.false_eq_true, if_false]
  let change (cache : ItemCache) : ItemCache :=
    { cache with
      tracked := cache.tracked.add item
      waiting := cache.waiting ++ [(item, ⟨asking.engine.nextId, reaction⟩)] }
  have changed := (asking.engine.register reaction).2.get?_modifyCache id id change
  rw [if_pos rfl, show (asking.engine.register reaction).2.caches.get? id = some cache from held]
    at changed
  refine ⟨rfl, rfl, fun isOpen => Engine.isBusy_requestCache changed isOpen, ?_⟩
  exact (congrArg (·.get? id) (Engine.caches_requestCache _ id)).trans changed

/-- The callback of a request belongs to the cache from then on. -/
theorem registers?_of_request (found : asking.engine.cache? requestName = some (id, cache))
    (agenda : asking.agenda =
      .perform (.cache (.request requestName item (some reaction))) :: rest) :
    asking.registers? = some (.requester id, asking.engine.nextId) := by
  rw [registers?, agenda]
  simp only [Command.registers?, found, Option.map_some]

/-- After a request for an id that is not tracked its callback waits. -/
theorem requesting_of_request (regular : asking.Regular)
    (found : asking.engine.cache? requestName = some (id, cache))
    (agenda : asking.agenda =
      .perform (.cache (.request requestName item (some reaction))) :: rest)
    (stepped : asking.step? = some next) (trackedNot : cache.tracked.contains item = false) :
    Requesting id item asking.engine.nextId next [] := by
  rcases request_waits found agenda stepped trackedNot with ⟨goesOn, _, _, held⟩
  have fresh {post : Post} : ¬ asking.Stands post asking.engine.nextId :=
    fun stands => absurd (regular.stands stands) (Nat.lt_irrefl _)
  have behind {activity : Activity} (listed : activity ∈ rest) : activity ∈ asking.agenda :=
    agenda ▸ List.mem_cons_of_mem _ listed
  refine .waits rfl ?_ ?_ (.inl ?_) ?_
  · refine List.filter_eq_nil_iff.mpr fun call isDue same => ?_
    have given := regular.due call (by rw [agenda]; exact goesOn ▸ isDue)
    exact absurd given (Nat.not_lt_of_le (Nat.le_of_eq (beq_iff_eq.mp same).symm))
  · refine List.filter_eq_nil_iff.mpr fun waits member same => ?_
    have stands := stands_of_serving (fun _ listed => behind (goesOn ▸ listed)) member
    rw [beq_iff_eq.mp same] at stands
    exact stands.elim fun _ => fresh
  · have none : (ItemCache.requestsOf (some cache)).filter (·.2 == asking.engine.nextId) = [] := by
      refine List.filter_eq_nil_iff.mpr fun waits member same => ?_
      refine @fresh (.requester id) (.there (.inl ?_))
      rw [Engine.posted, Engine.held_of_cache? found, ← beq_iff_eq.mp same]
      exact List.mem_map_of_mem member
    have requests : ItemCache.requestsOf (next.engine.caches.get? id) =
        ItemCache.requestsOf (some cache) ++ [(item, asking.engine.nextId)] := by
      rw [held]
      exact List.map_append
    rw [requests, List.filter_append, none]
    exact List.filter_eq_self.mpr (List.forall_mem_singleton.mpr (beq_self_eq_true _))
  · intro records head
    have quiet := regular.results (.refill id records)
      (by rw [agenda]; exact goesOn ▸ List.mem_of_mem_head? head)
    contradiction

/-- What a callback was called with, once it has been called or nothing else goes before. -/
theorem Requesting.told {cache : ItemCache} {result : QueryResult}
    (requesting : Requesting id item number machine since)
    (first : (fetches id since).head? = some (cache, result)) :
    told since number <+: [.item ((cache.found result).find? item)] ∧
      ((machine.agenda = [] ∨
          machine.drains ∧ ∀ waits ∈ serving machine.agenda, waits.2 ≠ number) →
        Machine.told since number = [.item ((cache.found result).find? item)]) := by
  cases requesting with
  | waits none => rw [none] at first; contradiction
  | fetched _ silent _ _ _ fills =>
      refine ⟨told_of_silent silent ▸ List.nil_prefix, ?_⟩
      rintro (finished | ⟨drains, _⟩)
      · rw [finished] at fills
        contradiction
      · rcases List.head?_eq_some_iff.mp fills with ⟨rest, agenda⟩
        rw [Machine.drains, agenda] at drains
        contradiction
  | served _ silent serves =>
      refine ⟨told_of_silent silent ▸ List.nil_prefix, ?_⟩
      rintro (finished | ⟨_, calm⟩)
      · rw [finished] at serves
        contradiction
      · have member : (item, number) ∈ serving machine.agenda :=
          List.mem_of_mem_filter (serves ▸ List.mem_singleton_self _)
        exact absurd rfl (calm _ member)
  | @answered current found firstToo once _ next =>
      rcases Prod.mk.inj (Option.some.inj (first.symm.trans firstToo)) with ⟨rfl, rfl⟩
      refine ⟨told_of_account once, fun settled => ?_⟩
      have callsNot : machine.calling? = none := by
        rcases settled with finished | ⟨drains, _⟩
        · rw [calling?, finished]
          rfl
        · rw [Machine.drains] at drains
          rw [calling?]
          split at drains
          · next agenda => rw [agenda]; rfl
          · contradiction
      rw [account_eq, callsNot, Option.toList_none, List.append_nil, next, List.append_nil] at once
      rw [Machine.told, once]
      rfl

/--
What the callback of a request is called with.  If the id is tracked it is called at once, with
the record that the request answers, and never again.  Otherwise it waits until a fetch succeeds,
of which one is queued then unless the cache is closed, and whatever fails before that.  The first
fetch that succeeds has selected the id, and the callback is called once, with the record that this
fetch found for the id, before another task is run.
-/
theorem item_requests_answered {name : String} {schema : StoreSchema} {config : Config}
    (course : (Engine.create name schema config).idle.Leads asking before)
    (agenda : asking.agenda =
      .perform (.cache (.request requestName item (some reaction))) :: rest)
    (found : asking.engine.cache? requestName = some (id, cache))
    (stepped : asking.step? = some next) (leads : next.Leads machine since)
    (undisturbed : Uninterrupted asking.engine.nextId (machine :: since)) :
    let number := asking.engine.nextId
    let held? := cache.items.find? item
    (cache.tracked.contains item →
      next.agenda = .call ⟨number, reaction⟩ (.item held?) :: .answer (.record held?) ::
        .letGo (.object id) :: rest ∧
      told since number = if since = [] then [] else [.item held?]) ∧
    (cache.tracked.contains item = false →
      next.reply = .record none ∧ (cache.isClosed = false → next.engine.isBusy id) ∧
      (fetches id since = [] → told since number = []) ∧
      ∀ current result, (fetches id since).head? = some (current, result) →
        current.tracked.contains item ∧
        (∃ fetching ∈ since, fetching.success? =
          some ⟨.cache id, ⟨current.table, .readOnly, .query current.descriptor⟩, result⟩) ∧
        told since number <+: [.item ((current.found result).find? item)] ∧
        (machine.agenda = [] ∨ machine.drains →
          told since number = [.item ((current.found result).find? item)])) := by
  intro number held?
  have regularAsking : asking.Regular := (regular_idle name schema config).leads course
  have goes : asking.Goes next := .step stepped
  have regular : next.Regular := regularAsking.goes goes
  have belongs : next.Belongs (.requester id) number :=
    regularAsking.belongs goes (registers?_of_request found agenda)
  constructor
  · intro tracked
    rcases request_answers found agenda stepped tracked with ⟨caches, goesOn⟩
    refine ⟨goesOn, ?_⟩
    have stood : next.Stands (.requester id) number → asking.Stands (.requester id) number := by
      intro stands
      rcases stands.of_requester with posted | ⟨other, callback, listed, numbered⟩
      · rw [Engine.posted, caches] at posted
        exact .there (.inl posted)
      · rw [goesOn] at listed
        simp only [List.mem_cons, reduceCtorEq, false_or] at listed
        exact numbered ▸ .served (agenda ▸ List.mem_cons_of_mem _ listed)
    have due_rest : due next.agenda.tail ⊆ due asking.agenda := by
      rw [goesOn, agenda]
      exact List.Subset.refl _
    rw [told_at_once regularAsking goes leads (Nat.le_refl _) belongs stood due_rest, calling?,
      goesOn]
    simp [Activity.call?, held?]
  · intro trackedNot
    rcases request_waits found agenda stepped trackedNot with ⟨_, reply, busy, held⟩
    rcases List.forall_mem_cons.mp undisturbed with ⟨now, earlier⟩
    have requesting : Requesting id item number machine since :=
      (requesting_of_request regularAsking found agenda stepped trackedNot).leads regular belongs
        leads earlier
    refine ⟨reply, busy, ?_, ?_⟩
    · intro none
      cases requesting with
      | waits _ silent => exact told_of_silent silent
      | fetched first | served first | answered first => rw [none] at first; contradiction
    · intro current result first
      have tracks : (next.engine.caches.get? id).any (·.tracked.contains item) := by
        rw [held]
        exact ValueSet.contains_add_self cache.tracked item
      rcases selected_of_leads regular leads tracks (List.mem_of_mem_head? first) with
        ⟨selected, fetching⟩
      have called := requesting.told first
      refine ⟨selected, fetching, called.1, fun settled => called.2 ?_⟩
      exact settled.imp_right fun drains => ⟨drains, now drains⟩

end Asking

/-- An id is requested while a fetch without it is queued; that fetch selects it all the same. -/
theorem item_requests_answered_of_run :
    let first : Engine := .create "s" ⟨1, [⟨"t", "id", false, []⟩]⟩ .standard
    let put : Command := .request (.submit none "t" (.put (.ofList [("id", .integer 1)])))
    let request : Command := .cache (.request "i" (.integer 1) (some ⟨"f", [], 0⟩))
    let setup := course 60 first.idle
      [put, .cache (.create "i" "t" none), .cache (.fetch "i")]
    let asking := start setup.1.engine request
    let next := act { asking with agenda := [] } (.perform request)
    let later := walk 60 (walkOn (walk 60 (next, [])) .run)
    ∃ current result, (fetches 2 later.2).head? = some (current, result) ∧
      current.tracked.contains (.integer 1) ∧
      told later.2 asking.engine.nextId =
        [.item ((current.found result).find? (.integer 1))] := by
  intro first put request setup asking next later
  have finished : setup.1.agenda.isEmpty ∧ later.1.agenda.isEmpty := by
    subst later next asking setup request put first
    decide +kernel
  have facts : (fetches 2 later.2).length = 1 ∧
      ((asking.engine.cache? "i").any fun found =>
        found.1 == 2 && !found.2.tracked.contains (.integer 1)) ∧
      ∀ machine ∈ later.1 :: later.2, machine.drains →
        ∀ waits ∈ serving machine.agenda, waits.2 ≠ asking.engine.nextId := by
    subst later next asking setup request put first
    decide +kernel
  have before : first.idle.Leads setup.1 setup.2 := leads_course 60 first.idle _
  have course : first.idle.Leads asking (setup.1 :: setup.2) :=
    before.next (.call (List.isEmpty_iff.mp finished.1) _)
  have agenda : asking.agenda = [.perform request] := rfl
  have stepped : asking.step? = some next := rfl
  have leads : next.Leads later.1 later.2 := leads_walk_command 60 next .run
  clear_value later next asking setup
  rcases facts with ⟨once, cached, undisturbed⟩
  rcases (Option.any_eq_true _ _).mp cached with ⟨⟨id, cache⟩, found, trackedNot⟩
  rw [Bool.and_eq_true, beq_iff_eq, Bool.not_eq_true'] at trackedNot
  rcases trackedNot with ⟨rfl, trackedNot⟩
  rcases (item_requests_answered course agenda found stepped leads undisturbed).2 trackedNot with
    ⟨_, _, _, answered⟩
  rcases List.length_eq_one_iff.mp once with ⟨⟨current, result⟩, fetched⟩
  have fetchedFirst : (fetches 2 later.2).head? = some (current, result) := by
    rw [fetched, List.head?_cons]
  rcases answered current result fetchedFirst with ⟨selected, _, _, called⟩
  exact ⟨current, result, fetchedFirst, selected, called (.inl (List.isEmpty_iff.mp finished.2))⟩

end Machine

end LiveTable
