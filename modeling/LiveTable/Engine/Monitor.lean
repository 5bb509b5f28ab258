import LiveTable.Error
import LiveTable.Json.Printer
import LiveTable.OrderedMap

/-!
# Timing of transactions

A monitor notes when transactions start and end, by a clock that its user reads for
it.  Transactions are numbered from one.  Averages are sums from the oldest to the
latest, divided once.
-/

set_option autoImplicit false

namespace LiveTable

/-- A transaction that is, or was, timed. -/
structure Timing where
  id : Nat
  start : Binary64
  /-- How long it took; none while it is under way. -/
  elapsed? : Option Binary64
  /-- Whether it is under way. -/
  isOpen : Bool
deriving Repr, Inhabited

/-- What has been timed. -/
structure Monitor where
  recentWindow : Nat
  nextId : Nat
  active : OrderedMap Nat Timing
  fulfilled : OrderedMap Nat Timing
  /-- How long transactions took, in the order in which they ended. -/
  history : List Binary64
  maxActive : Nat
deriving Repr, Inhabited

/-- Counts and averages of a monitor. -/
structure MonitorStats where
  maxActive : Nat
  active : Nat
  fulfilled : Nat
  average : Binary64
  averageRecent : Binary64
deriving Repr, DecidableEq

/-- What is noted of a transaction when it ends. -/
def Timing.ended (timing : Timing) (elapsed : Binary64) : Timing :=
  { timing with elapsed? := some elapsed, isOpen := false }

/-- The interchange text of a timing. -/
def Timing.written (timing : Timing) : List Char :=
  Json.writtenObject [
    ("id", Json.writtenNat timing.id),
    ("startTime", Json.writtenFloat timing.start),
    ("elapsed", (timing.elapsed?.map Json.writtenFloat).getD "null".toList),
    ("open", Json.writtenFlag timing.isOpen)]

namespace Monitor

/-- A monitor that has timed nothing. -/
def fresh (recentWindow : Nat) : Monitor :=
  ⟨recentWindow, 1, .empty, .empty, [], 0⟩

/-- Notes the start of a transaction at a time; the answer is its number. -/
def start (monitor : Monitor) (now : Binary64) : Nat × Monitor :=
  let id := monitor.nextId
  let active := monitor.active.insert id ⟨id, now, none, true⟩
  (id, { monitor with
    nextId := id + 1
    active := active
    maxActive := max monitor.maxActive active.size })

/-- Notes the end of a transaction at a time; the answer is how long it took. -/
def finish (monitor : Monitor) (now : Binary64) (id : Nat) :
    Except Error (Binary64 × Monitor) :=
  match monitor.active.get? id with
  | none => .error (.invalidOperation s!"transaction {id} is not active")
  | some timing =>
    let elapsed := now.sub timing.start
    .ok (elapsed, { monitor with
      active := monitor.active.erase id
      fulfilled := monitor.fulfilled.insert id (timing.ended elapsed)
      history := monitor.history ++ [elapsed] })

/-- The timing of a transaction. -/
def timing? (monitor : Monitor) (id : Nat) : Option Timing :=
  match monitor.active.get? id with
  | some timing => some timing
  | none => monitor.fulfilled.get? id

/--
The mean of a list of durations, zero where there are none.  The sum begins with minus
zero, which is the zero that leaves every duration as it is.
-/
def mean (durations : List Binary64) : Binary64 :=
  if durations.isEmpty then Binary64.zero false
  else
    (durations.foldl Binary64.add (Binary64.zero true)).div (Binary64.ofInt durations.length)

/-- Counts and averages. -/
def stats (monitor : Monitor) : MonitorStats where
  maxActive := monitor.maxActive
  active := monitor.active.size
  fulfilled := monitor.fulfilled.size
  average := mean monitor.history
  averageRecent := mean (monitor.history.drop (monitor.history.length - monitor.recentWindow))

end Monitor

namespace MonitorStats

/-- The wording of the counts and averages. -/
def message (stats : MonitorStats) : String :=
  let maxActive := stats.maxActive
  let active := stats.active
  let fulfilled := stats.fulfilled
  let average := String.ofList (stats.average.rounded 2)
  let recent := String.ofList (stats.averageRecent.rounded 2)
  s!"max active: {maxActive}, active: {active}, fulfilled: {fulfilled}, " ++
    s!"avg: {average}, avg recent: {recent}"

/-- The interchange text. -/
def written (stats : MonitorStats) : List Char :=
  Json.writtenObject [
    ("maxActive", Json.writtenNat stats.maxActive),
    ("active", Json.writtenNat stats.active),
    ("fulfilled", Json.writtenNat stats.fulfilled),
    ("avg", Json.writtenFloat stats.average),
    ("avgRecent", Json.writtenFloat stats.averageRecent)]

end MonitorStats

end LiveTable
