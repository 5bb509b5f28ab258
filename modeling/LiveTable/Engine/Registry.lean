import LiveTable.OrderedMap

/-!
# The registry of watchers

Watchers are known by an id and watch one table each.  The registry holds the table
of every id and, for every table that is watched, its watchers in the order in which
they came.  A watcher that comes again leaves its former table first.
-/

set_option autoImplicit false

namespace LiveTable

/-- Who watches which table. -/
structure Registry (Watcher : Type) where
  /-- The table of each id. -/
  tables : OrderedMap Nat String
  /-- The watchers of each table that has any. -/
  watchers : OrderedMap String (List (Nat × Watcher))
deriving Repr, Inhabited

/-- Counts of a registry. -/
structure RegistryStats where
  subscriptions : Nat
  tables : List String
  subscribers : Nat
deriving Repr, DecidableEq

namespace Registry

variable {Watcher : Type}

/-- Nobody watches anything. -/
def empty : Registry Watcher :=
  ⟨.empty, .empty⟩

/-- Whether an id watches a table. -/
def has (registry : Registry Watcher) (id : Nat) : Bool :=
  registry.tables.contains id

/-- The table that an id watches. -/
def tableOf? (registry : Registry Watcher) (id : Nat) : Option String :=
  registry.tables.get? id

/-- The watchers of a table, with their ids. -/
def entriesOf (registry : Registry Watcher) (table : String) : List (Nat × Watcher) :=
  (registry.watchers.get? table).getD []

/-- The watchers of a table. -/
def watchersOf (registry : Registry Watcher) (table : String) : List Watcher :=
  (registry.entriesOf table).map Prod.snd

/-- Sets the watchers of a table; a table without watchers is not listed. -/
def setEntries (registry : Registry Watcher) (table : String)
    (entries : List (Nat × Watcher)) : Registry Watcher :=
  { registry with
    watchers :=
      if entries.isEmpty then registry.watchers.erase table
      else registry.watchers.insert table entries }

/-- Removes an id, if it watches a table. -/
def remove (registry : Registry Watcher) (id : Nat) : Registry Watcher :=
  match registry.tableOf? id with
  | none => registry
  | some table =>
    let left := { registry with tables := registry.tables.erase id }
    left.setEntries table ((registry.entriesOf table).filter (·.1 != id))

/-- Lets an id watch a table, and no longer the one before. -/
def watch (registry : Registry Watcher) (id : Nat) (table : String) (watcher : Watcher) :
    Registry Watcher :=
  let left := registry.remove id
  let listed := left.setEntries table (left.entriesOf table ++ [(id, watcher)])
  { listed with tables := listed.tables.insert id table }

/-- How many watchers there are. -/
def size (registry : Registry Watcher) : Nat :=
  registry.tables.size

/-- Counts. -/
def stats (registry : Registry Watcher) : RegistryStats where
  subscriptions := registry.watchers.size
  tables := registry.watchers.keys
  subscribers := registry.size

end Registry

end LiveTable
