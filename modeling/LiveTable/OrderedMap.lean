/-!
# Finite maps in key order

An `OrderedMap` is an association list kept in ascending order of its keys.  Two
keys are the same key when they *compare* equal, which need not mean that they
are identical: storing under a key that is already there replaces the value and
keeps the key as it is stored.
-/

set_option autoImplicit false

namespace LiveTable

/-- Entries in ascending order of their keys. -/
structure OrderedMap (Key Content : Type) where
  entries : List (Key × Content)
deriving Repr, DecidableEq, Inhabited

namespace OrderedMap

variable {Key Content Other : Type}

/-- The map without entries. -/
def empty : OrderedMap Key Content :=
  ⟨[]⟩

/-- The number of entries. -/
def size (map : OrderedMap Key Content) : Nat :=
  map.entries.length

/-- Whether there is no entry. -/
def isEmpty (map : OrderedMap Key Content) : Bool :=
  map.entries.isEmpty

/-- The stored keys, in ascending order. -/
def keys (map : OrderedMap Key Content) : List Key :=
  map.entries.map Prod.fst

/-- The stored values, in the order of their keys. -/
def values (map : OrderedMap Key Content) : List Content :=
  map.entries.map Prod.snd

/-- The entries that satisfy a condition. -/
def filter (keep : Key → Content → Bool) (map : OrderedMap Key Content) :
    OrderedMap Key Content :=
  ⟨map.entries.filter fun entry => keep entry.1 entry.2⟩

/-- Changes every value and no key. -/
def mapValues (change : Content → Other) (map : OrderedMap Key Content) :
    OrderedMap Key Other :=
  ⟨map.entries.map fun entry => (entry.1, change entry.2)⟩

section Ordered

variable [Ord Key]

/-- The first entry whose key compares equal to `key`. -/
def findIn (key : Key) : List (Key × Content) → Option (Key × Content)
  | [] => none
  | entry :: rest => if compare key entry.1 = .eq then some entry else findIn key rest

/-- The entry stored under `key`, with the key as it is stored. -/
def findEntry? (map : OrderedMap Key Content) (key : Key) : Option (Key × Content) :=
  findIn key map.entries

/-- The value stored under `key`. -/
def get? (map : OrderedMap Key Content) (key : Key) : Option Content :=
  (map.findEntry? key).map Prod.snd

/-- Whether something is stored under `key`. -/
def contains (map : OrderedMap Key Content) (key : Key) : Bool :=
  (map.findEntry? key).isSome

/-- Stores into an ascending list; a key already there stays as it is. -/
def insertIn (key : Key) (content : Content) : List (Key × Content) → List (Key × Content)
  | [] => [(key, content)]
  | entry :: rest =>
    match compare key entry.1 with
    | .lt => (key, content) :: entry :: rest
    | .eq => (entry.1, content) :: rest
    | .gt => entry :: insertIn key content rest

/-- Stores a value under a key; where the key is there already only the value changes. -/
def insert (map : OrderedMap Key Content) (key : Key) (content : Content) :
    OrderedMap Key Content :=
  ⟨insertIn key content map.entries⟩

/-- Removes whatever is stored under `key`. -/
def erase (map : OrderedMap Key Content) (key : Key) : OrderedMap Key Content :=
  map.filter fun stored _ => compare key stored != .eq

/-- The map that stores the entries of a list one after the other. -/
def ofList (entries : List (Key × Content)) : OrderedMap Key Content :=
  entries.foldl (fun map entry => map.insert entry.1 entry.2) empty

/-- Changes the value under `key`, if there is one. -/
def modify (map : OrderedMap Key Content) (key : Key) (change : Content → Content) :
    OrderedMap Key Content :=
  ⟨map.entries.map fun entry =>
    if compare key entry.1 = .eq then (entry.1, change entry.2) else entry⟩

end Ordered

end OrderedMap

end LiveTable
