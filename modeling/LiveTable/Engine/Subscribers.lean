/-!
# Subscribers

A list of subscribers in the order in which they subscribed, numbered from one.
Numbers are not used again.
-/

set_option autoImplicit false

namespace LiveTable

/-- Numbered subscribers, in the order of subscription. -/
structure Subscribers (Subscriber : Type) where
  entries : List (Nat × Subscriber)
  nextId : Nat
deriving Repr, Inhabited

namespace Subscribers

variable {Subscriber : Type}

/-- Nobody has subscribed. -/
def empty : Subscribers Subscriber :=
  ⟨[], 1⟩

/-- Adds a subscriber; the answer is its number. -/
def add (subscribers : Subscribers Subscriber) (subscriber : Subscriber) :
    Nat × Subscribers Subscriber :=
  (subscribers.nextId,
    ⟨subscribers.entries ++ [(subscribers.nextId, subscriber)], subscribers.nextId + 1⟩)

/-- Whether a number is that of a subscriber. -/
def has (subscribers : Subscribers Subscriber) (id : Nat) : Bool :=
  subscribers.entries.any (·.1 == id)

/-- Removes the subscriber of a number. -/
def remove (subscribers : Subscribers Subscriber) (id : Nat) : Subscribers Subscriber :=
  { subscribers with entries := subscribers.entries.filter (·.1 != id) }

/-- Removes every subscriber. -/
def clear (subscribers : Subscribers Subscriber) : Subscribers Subscriber :=
  { subscribers with entries := [] }

/-- The numbers, in the order of subscription. -/
def ids (subscribers : Subscribers Subscriber) : List Nat :=
  subscribers.entries.map Prod.fst

/-- The subscribers, in the order of subscription. -/
def all (subscribers : Subscribers Subscriber) : List Subscriber :=
  subscribers.entries.map Prod.snd

/-- How many there are. -/
def size (subscribers : Subscribers Subscriber) : Nat :=
  subscribers.entries.length

end Subscribers

end LiveTable
