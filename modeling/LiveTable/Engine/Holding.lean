import LiveTable.Engine.Basic

/-!
# Holding

What a command works with is held until the command has ended, so that it outlives being
given up by a callback meanwhile.  A registry that is replaced while it is held goes on
as a former one; a binding or a cache that no name stands for any more stays open.  When
its last holder lets it go, the former registry is gone and the object is closed.
-/

set_option autoImplicit false

namespace LiveTable

namespace Engine

/-! ## Closing -/

/-- Closes a binding: it watches nothing, and its callbacks are gone. -/
def closeBinding (engine : Engine) (id : Nat) : Engine :=
  match engine.bindings.get? id with
  | none => engine
  | some binding =>
    if binding.isClosed then engine
    else
      (engine.leave id).modifyBinding id fun binding =>
        { binding with isClosed := true, consumers := binding.consumers.clear, waiting := [] }

/-- Closes a cache: it watches nothing, and its callbacks are gone. -/
def closeCache (engine : Engine) (id : Nat) : Engine :=
  match engine.caches.get? id with
  | none => engine
  | some cache =>
    if cache.isClosed then engine
    else
      (engine.leave id).modifyCache id fun cache =>
        { cache with isClosed := true, consumers := cache.consumers.clear, waiting := [] }

/-- Closes the binding or the cache of a number. -/
def closeObject (engine : Engine) (id : Nat) : Engine :=
  (engine.closeBinding id).closeCache id

/-! ## Giving up -/

/-- Holds something, once more if it is held already. -/
def hold (engine : Engine) (held : Held) : Engine :=
  { engine with holds := held :: engine.holds }

/-- Whether something is held. -/
def isHeld (engine : Engine) (held : Held) : Bool :=
  engine.holds.contains held

/-- Gives up a binding or a cache, which is closed unless it is held. -/
def discard (engine : Engine) (id : Nat) : Engine :=
  if engine.isHeld (.object id) then { engine with discarded := id :: engine.discarded }
  else engine.closeObject id

/--
Begins a generation with a registry that has no watchers and does not listen yet.  The
one before is gone, and no longer listens, unless it is held.
-/
def renewRegistry (engine : Engine) : Engine :=
  let engine :=
    if engine.isHeld (.registry engine.generation) then
      let former := engine.former.insert engine.generation ⟨engine.registry, engine.attachment?⟩
      { engine with former := former }
    else engine.detach engine.attachment?
  { engine with
    registry := .empty
    attachment? := none
    generation := engine.generation + 1 }

/-! ## Letting go -/

/-- Ends what was given up, now that nobody holds it. -/
def settleGivenUp (engine : Engine) : Held → Engine
  | .registry generation =>
    match engine.former.get? generation with
    | some former =>
      { engine.detach former.attachment? with former := engine.former.erase generation }
    | none => engine
  | .object id =>
    if engine.discarded.contains id then
      { engine.closeObject id with discarded := engine.discarded.erase id }
    else engine

/-- Lets something go once; with its last holder it ends, if it was given up. -/
def letGo (engine : Engine) (held : Held) : Engine :=
  let engine := { engine with holds := engine.holds.erase held }
  if engine.isHeld held then engine else engine.settleGivenUp held

end Engine

end LiveTable
