import LiveTable.Engine.Basic

/-!
# Units of work

A unit is prepared when it runs, so that it sees what its object is then; an object
that has been closed needs no unit.  It runs in one transaction, which opens the store
if need be and which the monitor times while it is on.
-/

set_option autoImplicit false

namespace LiveTable

namespace Binding

/-- The unit of a binding, unless it is closed. -/
def unit? (binding : Binding) : Option WorkUnit :=
  if binding.isClosed then none
  else some ⟨binding.table, binding.descriptor.mode, .query binding.descriptor⟩

end Binding

namespace ItemCache

/-- The query for the records of all tracked ids. -/
def descriptor (cache : ItemCache) : Descriptor :=
  Descriptor.all.withClause (.comparison cache.idField "anyOf" (.array cache.tracked.keys))

/-- The unit of a cache, unless it is closed. -/
def unit? (cache : ItemCache) : Option WorkUnit :=
  if cache.isClosed then none else some ⟨cache.table, .readOnly, .query cache.descriptor⟩

end ItemCache

namespace Engine

/-- The unit that a job comes to now, if it needs one. -/
def unit? (engine : Engine) (executor : Nat) : Job → Option WorkUnit
  | .binding => (engine.bindings.get? executor).bind Binding.unit?
  | .cache => (engine.caches.get? executor).bind ItemCache.unit?
  | .request unit => some unit
  | .callback unit? _ _ => unit?

/--
Runs a unit in one transaction, opening the store if need be; operations move the clock
of the number.
-/
def transact (engine : Engine) (unit : WorkUnit) (clock : Nat) :
    Except OperationFailure Outcome × Engine :=
  match engine.store.open? with
  | .error error => (.error ⟨error, []⟩, engine)
  | .ok store =>
    let (outcome, store) := store.run unit
    let engine := { engine with store := store }
    (outcome, engine.elapse clock (Request.answersOf outcome))

/-- Starts to time a transaction, if transactions are timed; the answer is its number. -/
def startTiming (engine : Engine) : Option Nat × Engine :=
  if engine.isMonitoring then
    let (id, monitor) := engine.monitor.start engine.clock.now
    (some id, { engine with monitor := monitor })
  else (none, engine)

/-- Ends the timing of a transaction, if it was timed. -/
def finishTiming (engine : Engine) : Option Nat → Engine
  | none => engine
  | some id =>
    match engine.monitor.finish engine.clock.now id with
    | .ok (_, monitor) => { engine with monitor := monitor }
    | .error _ => engine

/-- Runs a unit as a timed transaction; its failure names the table. -/
def runUnit (engine : Engine) (unit : WorkUnit) (clock : Nat) :
    Except OperationFailure Outcome × Engine :=
  let (timing?, engine) := engine.startTiming
  let (outcome, engine) := engine.transact unit clock
  (outcome.mapError fun failure => ⟨failure.error.inTransaction unit.table, failure.answers⟩,
    engine.finishTiming timing?)

end Engine

end LiveTable
