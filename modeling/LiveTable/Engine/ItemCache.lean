import LiveTable.Engine.Delivery

/-!
# Item caches

An item cache tracks a growing set of ids and holds the records that have one of them in
the id field.  A fetch selects all tracked ids anew and replaces what is held; it is
requested by hand, by a request for an id that is not tracked yet, and whenever a
delivered batch touches the table.

A closed cache watches nothing and rejects every fetch.
-/

set_option autoImplicit false

namespace LiveTable

/-- A cache that tracks nothing. -/
def ItemCache.create (table idField : String) : ItemCache :=
  ⟨table, idField, .empty, .empty, [], .empty, false⟩

namespace Engine

/-- Makes a cache; the answer is its number. -/
def createCache (engine : Engine) (table idField : String) : Nat × Engine :=
  let (id, engine) := engine.allocate
  let engine := { engine with caches := engine.caches.insert id (.create table idField) }
  (id, engine.watch id table (.cache id))

/-- Tracks an id that was not tracked, lets a callback wait for it, and requests a fetch. -/
def trackItem (engine : Engine) (id : Nat) (item : Value) (callback? : Option Callback) :
    Engine :=
  let engine := engine.modifyCache id fun cache =>
    { cache with
      tracked := cache.tracked.add item
      waiting := cache.waiting ++ callback?.toList.map fun callback => (item, callback) }
  (engine.requestCache id).2

/-- Registers a reaction, if there is one. -/
def register? (engine : Engine) : Option (Reaction Command) → Option Callback × Engine
  | none => (none, engine)
  | some reaction =>
    let (callback, engine) := engine.register reaction
    (some callback, engine)

end Engine

namespace Machine

/-- Gives a cache the records of its fetch. -/
def refill (machine : Machine) (id : Nat) (records : List Record) : Machine :=
  match machine.engine.caches.get? id with
  | none => machine
  | some cache =>
    let items := Items.collect cache.idField records
    let engine := machine.engine.modifyCache id fun cache =>
      { cache with items := items, waiting := [] }
    (machine.become engine).next
      (cache.waiting.map (fun waiting => .serveItem id waiting.1 waiting.2) ++ [.spread id])

/-- Answers a callback that waited for an item, as it is held now. -/
def serveItem (machine : Machine) (id : Nat) (item : Value) (callback : Callback) : Machine :=
  match machine.engine.caches.get? id with
  | none => machine
  | some cache => machine.next [.call callback (.item (cache.items.find? item))]

/-- Passes the items of a cache to its consumers. -/
def spread (machine : Machine) (id : Nat) : Machine :=
  match machine.engine.caches.get? id with
  | none => machine
  | some cache => machine.next (cache.consumers.all.map (.call · (.items cache.items)))

/-- Goes on with the cache of a name, if it stands for one. -/
def withCache (machine : Machine) (name : String) (go : Nat → ItemCache → Machine) : Machine :=
  match machine.engine.cache? name with
  | some (id, cache) => go id cache
  | none => machine.say .nothing

/-- Carries out a command on item caches. -/
def performCache (machine : Machine) : CacheCommand Command → Machine
  | .create name table idField? =>
    let former? := (machine.engine.handles name).cache?
    let idField := idField?.getD machine.engine.config.idField
    let (id, engine) := machine.engine.createCache table idField
    let engine := engine.rename name fun handles => { handles with cache? := some id }
    let engine := former?.elim engine engine.discard
    machine.conclude (.cached table idField, engine)
  | .track name ids => machine.withCache name fun id _ =>
    machine.conclude (.nothing,
      machine.engine.modifyCache id fun cache => { cache with tracked := cache.tracked.addAll ids })
  | .request name item reaction? => machine.withCache name fun id cache =>
    let (callback?, engine) := machine.engine.register? reaction?
    if cache.tracked.contains item then
      let held? := cache.items.find? item
      (machine.become engine).holding (.object id)
        ((callback?.toList.map fun callback => .call callback (.item held?)) ++
          [.answer (.record held?)])
    else machine.conclude (.record none, engine.trackItem id item callback?)
  | .fetch name => machine.withCache name fun id _ =>
    let (submission, engine) := machine.engine.requestCache id
    machine.conclude (.submission submission, engine)
  | .subscribe name reaction => machine.withCache name fun id cache =>
    let (callback, engine) := machine.engine.register reaction
    let (number, consumers) := cache.consumers.add callback
    machine.conclude (.number number,
      engine.modifyCache id fun cache => { cache with consumers := consumers })
  | .unsubscribe name number => machine.withCache name fun id cache =>
    machine.conclude (.flag (cache.consumers.has number),
      machine.engine.modifyCache id fun cache =>
        { cache with consumers := cache.consumers.remove number })
  | .close name => machine.withCache name fun id _ =>
    machine.conclude (.nothing, machine.engine.closeCache id)

end Machine

end LiveTable
