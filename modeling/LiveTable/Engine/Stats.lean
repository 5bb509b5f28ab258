import LiveTable.Engine.Monitor
import LiveTable.Engine.Registry

/-!
# Statistics of an engine

Counts of the registry and, while transactions are timed, those of the monitor.
-/

set_option autoImplicit false

namespace LiveTable

/-- The statistics of an engine. -/
structure EngineStats where
  registry : RegistryStats
  transactions? : Option MonitorStats
deriving Repr, DecidableEq

namespace EngineStats

/-- The wording of the statistics. -/
def message (stats : EngineStats) : String :=
  let subscriptions := stats.registry.subscriptions
  let subscribers := stats.registry.subscribers
  let tables := String.intercalate ", " stats.registry.tables
  let counts :=
    s!"subscriptions: {subscriptions}, subscribers: {subscribers}, tables: [{tables}]"
  match stats.transactions? with
  | none => counts
  | some transactions => counts ++ ", " ++ transactions.message

/-- The interchange text. -/
def written (stats : EngineStats) : List Char :=
  Json.writtenObject [
    ("dispatcher", Json.writtenObject [
      ("subscriptions", Json.writtenNat stats.registry.subscriptions),
      ("tables", Json.writtenArray (stats.registry.tables.map Json.writtenString)),
      ("subscribers", Json.writtenNat stats.registry.subscribers)]),
    ("transactions", (stats.transactions?.map MonitorStats.written).getD "null".toList)]

/-- The statistics of an engine in which nothing has happened. -/
def blank : EngineStats :=
  ⟨⟨0, [], 0⟩, none⟩

end EngineStats

end LiveTable
