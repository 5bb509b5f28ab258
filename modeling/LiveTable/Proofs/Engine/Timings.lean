import LiveTable.Engine.Monitor
import LiveTable.Proofs.OrderedMap
import Mathlib.Data.List.Nodup

/-!
# The books of a monitor

A monitor is asked to note that a transaction starts, and to note that the transaction of a
number ends; the numbers may be asked for in any order, more than once, or without ever having
been given out.

An *account* keeps next to the monitor which numbers were given out, the end of which of them was
noted, and how many transactions were under way at each moment.  Whatever is asked of it, the
books agree with the account.
-/

set_option autoImplicit false

namespace LiveTable.Monitor

/-- What a monitor is asked to note. -/
inductive Call where
  | start (now : Binary64)
  | finish (now : Binary64) (id : Nat)

/-- A monitor and what became of the calls so far. -/
structure Account where
  monitor : Monitor
  /-- The numbers that were given out, in this order. -/
  started : List Nat
  /-- The numbers the end of which was noted, in this order. -/
  ended : List Nat
  /-- How many transactions were under way at each moment, from the first one on. -/
  levels : List Nat

namespace Account

/-- The account of a monitor that was not asked anything yet. -/
def opening (window : Nat) : Account :=
  ⟨.fresh window, [], [], [0]⟩

/-- The account after a call; of a call that fails there is nothing to note. -/
def serve (account : Account) : Call → Account
  | .start now =>
    let (id, monitor) := account.monitor.start now
    ⟨monitor, account.started ++ [id], account.ended, account.levels ++ [monitor.active.size]⟩
  | .finish now id =>
    match account.monitor.finish now id with
    | .ok (_, monitor) =>
      ⟨monitor, account.started, account.ended ++ [id], account.levels ++ [monitor.active.size]⟩
    | .error _ => account

/-- The account after some calls. -/
def after (account : Account) (calls : List Call) : Account :=
  calls.foldl serve account

end Account

/-! ## The highest level -/

/-- A level was reached, and none was higher. -/
def IsPeak (levels : List Nat) (peak : Nat) : Prop :=
  peak ∈ levels ∧ ∀ level ∈ levels, level ≤ peak

theorem IsPeak.append {levels : List Nat} {peak : Nat} (highest : IsPeak levels peak)
    (level : Nat) : IsPeak (levels ++ [level]) (max peak level) := by
  constructor
  · rcases Nat.le_total peak level with above | below
    · rw [Nat.max_eq_right above]
      exact List.mem_append_right _ (List.mem_singleton_self level)
    · rw [Nat.max_eq_left below]
      exact List.mem_append_left _ highest.1
  · intro other member
    rcases List.mem_append.mp member with old | new
    · exact Nat.le_trans (highest.2 other old) (Nat.le_max_left peak level)
    · rw [List.mem_singleton.mp new]
      exact Nat.le_max_right peak level

/-! ## What every call keeps -/

/-- The books agree with the account. -/
structure Booked (window : Nat) (account : Account) : Prop where
  recentWindow : account.monitor.recentWindow = window
  /-- No number is given out twice. -/
  next : ∀ id ∈ account.started, id < account.monitor.nextId
  activeAscending : account.monitor.active.Ascending
  fulfilledAscending : account.monitor.fulfilled.Ascending
  active : ∀ id, (account.monitor.active.get? id).isSome ↔
    id ∈ account.started ∧ id ∉ account.ended
  fulfilled : ∀ id, (account.monitor.fulfilled.get? id).isSome ↔ id ∈ account.ended
  begun : ∀ id ∈ account.ended, id ∈ account.started
  once : account.ended.Nodup
  /-- The record of a transaction under way is open, and has no elapsed time. -/
  underWay : ∀ id timing, account.monitor.active.get? id = some timing →
    timing.isOpen ∧ timing.elapsed? = none
  /-- The record of a transaction that ended is open no more. -/
  closed : ∀ id timing, account.monitor.fulfilled.get? id = some timing → timing.isOpen = false
  history : account.monitor.history.map some =
    account.ended.map fun id => (account.monitor.fulfilled.get? id).bind Timing.elapsed?
  peak : IsPeak account.levels account.monitor.maxActive
  current : account.monitor.active.size ≤ account.monitor.maxActive

variable {window : Nat} {account : Account}

theorem booked_opening (window : Nat) : Booked window (.opening window) where
  recentWindow := rfl
  next := nofun
  activeAscending := OrderedMap.empty_ascending
  fulfilledAscending := OrderedMap.empty_ascending
  active id := ⟨nofun, nofun⟩
  fulfilled id := ⟨nofun, nofun⟩
  begun := nofun
  once := List.nodup_nil
  underWay := nofun
  closed := nofun
  history := rfl
  peak := by
    constructor
    · exact List.mem_singleton_self 0
    · exact fun level member => Nat.le_of_eq (List.mem_singleton.mp member)
  current := Nat.le_refl 0

/-- What is looked up after storing under a number. -/
theorem get?_insert_number {Content : Type} (map : OrderedMap Nat Content) (id : Nat)
    (content : Content) (other : Nat) :
    (map.insert id content).get? other = if other = id then some content else map.get? other := by
  simp only [OrderedMap.get?_insert, Std.compare_eq_iff_eq]

theorem get?_erase_number {Content : Type} (map : OrderedMap Nat Content) (id other : Nat) :
    (map.erase id).get? other = if other = id then none else map.get? other := by
  simp only [OrderedMap.get?_erase, Std.compare_eq_iff_eq]

/-- A transaction that starts is under way under a new number. -/
theorem Booked.start (booked : Booked window account) (now : Binary64) :
    Booked window (account.serve (.start now)) := by
  let id := account.monitor.nextId
  let active := account.monitor.active.insert id ⟨id, now, none, true⟩
  have new : id ∉ account.started := fun given => Nat.lt_irrefl id (booked.next id given)
  have lookup (other : Nat) : active.get? other =
      if other = id then some ⟨id, now, none, true⟩ else account.monitor.active.get? other :=
    get?_insert_number _ id _ other
  have next : ∀ other ∈ account.started ++ [id], other < id + 1 := by
    intro other given
    rcases List.mem_append.mp given with old | new
    · exact Nat.lt_succ_of_lt (booked.next other old)
    · rw [List.mem_singleton.mp new]
      exact Nat.lt_succ_self id
  have isActive (other : Nat) : (active.get? other).isSome ↔
      other ∈ account.started ++ [id] ∧ other ∉ account.ended := by
    rw [lookup, List.mem_append, List.mem_singleton]
    by_cases own : other = id
    · rw [if_pos own, own]
      exact iff_of_true rfl ⟨.inr rfl, fun ended => new (booked.begun id ended)⟩
    · rw [if_neg own, booked.active, or_iff_left own]
  have underWay (other : Nat) (timing : Timing) (held : active.get? other = some timing) :
      timing.isOpen ∧ timing.elapsed? = none := by
    rw [lookup] at held
    split at held
    · rw [← Option.some.inj held]
      exact ⟨rfl, rfl⟩
    · exact booked.underWay other timing held
  exact { booked with
    next := next
    activeAscending := booked.activeAscending.insert _ _
    active := isActive
    begun := fun other ended => List.mem_append_left _ (booked.begun other ended)
    underWay := underWay
    peak := booked.peak.append active.size
    current := Nat.le_max_right _ _ }

/-- The end of a transaction that is under way. -/
theorem serve_of_some {id : Nat} {timing : Timing}
    (held : account.monitor.active.get? id = some timing) (now : Binary64) :
    account.serve (.finish now id) =
      let elapsed := now.sub timing.start
      let active := account.monitor.active.erase id
      let fulfilled := account.monitor.fulfilled.insert id (timing.ended elapsed)
      let history := account.monitor.history ++ [elapsed]
      ⟨{ account.monitor with active := active, fulfilled := fulfilled, history := history },
        account.started, account.ended ++ [id], account.levels ++ [active.size]⟩ := by
  rw [Account.serve, Monitor.finish, held]

theorem finish_of_none {monitor : Monitor} {id : Nat} (missing : monitor.active.get? id = none)
    (now : Binary64) :
    monitor.finish now id = .error (.invalidOperation s!"transaction {id} is not active") := by
  rw [finish, missing]

/-- The end of a transaction that is not under way changes nothing. -/
theorem serve_of_none {id : Nat} (missing : account.monitor.active.get? id = none)
    (now : Binary64) : account.serve (.finish now id) = account := by
  rw [Account.serve, finish_of_none missing]

/-- A transaction that ends is no longer under way, and what it took comes last in the history. -/
theorem Booked.finish (booked : Booked window account) (now : Binary64) {id : Nat}
    {timing : Timing} (held : account.monitor.active.get? id = some timing) :
    Booked window (account.serve (.finish now id)) := by
  let elapsed := now.sub timing.start
  let active := account.monitor.active.erase id
  let fulfilled := account.monitor.fulfilled.insert id (timing.ended elapsed)
  rcases (booked.active id).mp (by rw [held]; rfl) with ⟨started, notEnded⟩
  have lookupActive (other : Nat) : active.get? other =
      if other = id then none else account.monitor.active.get? other :=
    get?_erase_number _ id other
  have lookupFulfilled (other : Nat) : fulfilled.get? other =
      if other = id then some (timing.ended elapsed)
      else account.monitor.fulfilled.get? other :=
    get?_insert_number _ id _ other
  have isActive (other : Nat) : (active.get? other).isSome ↔
      other ∈ account.started ∧ other ∉ account.ended ++ [id] := by
    rw [lookupActive, List.mem_append, List.mem_singleton]
    by_cases own : other = id
    · rw [if_pos own]
      exact iff_of_false Bool.false_ne_true fun both => both.2 (.inr own)
    · rw [if_neg own, booked.active, or_iff_left own]
  have isFulfilled (other : Nat) : (fulfilled.get? other).isSome ↔
      other ∈ account.ended ++ [id] := by
    rw [lookupFulfilled, List.mem_append, List.mem_singleton]
    by_cases own : other = id
    · rw [if_pos own]
      exact iff_of_true rfl (.inr own)
    · rw [if_neg own, booked.fulfilled, or_iff_left own]
  have begun : ∀ other ∈ account.ended ++ [id], other ∈ account.started := by
    intro other ended
    rcases List.mem_append.mp ended with old | new
    · exact booked.begun other old
    · rw [List.mem_singleton.mp new]
      exact started
  have underWay (other : Nat) (timing : Timing) (found : active.get? other = some timing) :
      timing.isOpen ∧ timing.elapsed? = none := by
    rw [lookupActive] at found
    split at found
    · contradiction
    · exact booked.underWay other timing found
  have closed (other : Nat) (record : Timing) (found : fulfilled.get? other = some record) :
      record.isOpen = false := by
    rw [lookupFulfilled] at found
    split at found
    · rw [← Option.some.inj found]
      rfl
    · exact booked.closed other record found
  -- The new entry changes no record of a transaction that ended before.
  have history : (account.monitor.history ++ [elapsed]).map some =
      (account.ended ++ [id]).map fun other => (fulfilled.get? other).bind Timing.elapsed? := by
    have others : ∀ other ∈ account.ended, (fulfilled.get? other).bind Timing.elapsed? =
        (account.monitor.fulfilled.get? other).bind Timing.elapsed? := by
      intro other ended
      rw [lookupFulfilled, if_neg (ne_of_mem_of_not_mem ended notEnded)]
    rw [List.map_append, List.map_append, booked.history, List.map_congr_left others,
      List.map_singleton, List.map_singleton, lookupFulfilled, if_pos rfl]
    rfl
  have smaller : active.size ≤ account.monitor.maxActive :=
    Nat.le_trans (List.length_filter_le _ _) booked.current
  have peak : IsPeak (account.levels ++ [active.size]) account.monitor.maxActive := by
    have peak := booked.peak.append active.size
    rwa [Nat.max_eq_left smaller] at peak
  rw [serve_of_some held]
  exact { booked with
    activeAscending := booked.activeAscending.erase id
    fulfilledAscending := booked.fulfilledAscending.insert _ _
    active := isActive
    fulfilled := isFulfilled
    begun := begun
    once := List.nodup_append_comm.mp (List.nodup_cons.mpr ⟨notEnded, booked.once⟩)
    underWay := underWay
    closed := closed
    history := history
    peak := peak
    current := smaller }

theorem Booked.serve (booked : Booked window account) (call : Call) :
    Booked window (account.serve call) := by
  cases call with
  | start now => exact booked.start now
  | finish now id =>
      cases held : account.monitor.active.get? id with
      | none =>
          rw [serve_of_none held]
          exact booked
      | some timing => exact booked.finish now held

/-- Whatever a monitor is asked, its books agree with the account. -/
theorem Booked.after (booked : Booked window account) (calls : List Call) :
    Booked window (account.after calls) := by
  induction calls generalizing account with
  | nil => exact booked
  | cons call rest ih => exact ih (booked.serve call)

/-! ## One transaction after another -/

/-- The monitor after the end of a transaction; an end that is refused changes nothing. -/
def afterFinish (monitor : Monitor) (now : Binary64) (id : Nat) : Monitor :=
  match monitor.finish now id with
  | .ok (_, monitor) => monitor
  | .error _ => monitor

theorem serve_finish_monitor (account : Account) (now : Binary64) (id : Nat) :
    (account.serve (.finish now id)).monitor = account.monitor.afterFinish now id := by
  rw [Account.serve, afterFinish]
  cases account.monitor.finish now id <;> rfl

/-- While no other is under way, a transaction starts and ends. -/
theorem Booked.transaction (booked : Booked window account)
    (idle : account.monitor.active = .empty) (begun ended : Binary64) :
    let id := account.monitor.nextId
    let later := (account.serve (.start begun)).serve (.finish ended id)
    Booked window later ∧ later.monitor.active = .empty ∧ later.ended = account.ended ++ [id] := by
  intro id later
  have missing : account.monitor.active.get? id = none := by
    rw [idle]
    rfl
  have held :
      (account.serve (.start begun)).monitor.active.get? id = some ⟨id, begun, none, true⟩ :=
    OrderedMap.get?_insert_self _ _ _
  refine ⟨(booked.serve _).serve _, ?_, ?_⟩
  · simp only [later, serve_of_some held]
    exact (OrderedMap.erase_insert missing _).trans idle
  · simp only [later, serve_of_some held]
    rfl

/-! ## What the books say -/

/--
The books of a monitor in terms of the calls: who is under way, who has ended, what the records
and the history show, and how the statistics are taken from them.
-/
structure Balanced (window : Nat) (account : Account) : Prop where
  /-- No transaction is both under way and fulfilled. -/
  apart : ∀ id ∈ account.monitor.active.keys, id ∉ account.monitor.fulfilled.keys
  /-- A transaction is one of the two if its number was given out, and only then. -/
  started : ∀ id, id ∈ account.started ↔
    id ∈ account.monitor.active.keys ∨ id ∈ account.monitor.fulfilled.keys
  /-- A record is open, and has no elapsed time, while its transaction is under way. -/
  isOpen : ∀ id timing, account.monitor.timing? id = some timing →
    (timing.isOpen ↔ id ∈ account.monitor.active.keys) ∧
      (timing.elapsed? = none ↔ id ∈ account.monitor.active.keys)
  /-- The transactions that ended are the fulfilled ones, each once. -/
  ended : account.ended.Perm account.monitor.fulfilled.keys
  /-- The history shows how long they took, in the order in which they ended. -/
  history : account.monitor.history.map some =
    account.ended.map fun id => (account.monitor.timing? id).bind Timing.elapsed?
  /-- Never were more transactions under way at one moment, and once there were as many. -/
  maxActive : IsPeak account.levels account.monitor.maxActive
  /-- The end of a transaction that is not under way fails and changes nothing. -/
  refused : ∀ now id, id ∉ account.monitor.active.keys →
    account.monitor.finish now id = .error (.invalidOperation s!"transaction {id} is not active") ∧
      account.serve (.finish now id) = account
  /-- The recent part of the history is its end, as long as the window or all of it. -/
  recent : ∃ older recent, account.monitor.history = older ++ recent ∧
    recent.length = min window account.monitor.history.length ∧
    account.monitor.stats.averageRecent = mean recent

section Records

variable {monitor : Monitor} {id : Nat}

theorem get?_of_not_active (gone : id ∉ monitor.active.keys) : monitor.active.get? id = none := by
  rwa [OrderedMap.mem_keys_iff, Option.not_isSome_iff_eq_none] at gone

/-- The record of a transaction that is not under way is the fulfilled one. -/
theorem timing?_of_not_active (gone : id ∉ monitor.active.keys) :
    monitor.timing? id = monitor.fulfilled.get? id := by
  rw [timing?, get?_of_not_active gone]

/-- The recent part of a history is never longer than the history. -/
theorem recent_part (monitor : Monitor) :
    ∃ older recent, monitor.history = older ++ recent ∧
      recent.length = min monitor.recentWindow monitor.history.length ∧
      monitor.stats.averageRecent = mean recent := by
  let skipped := monitor.history.length - monitor.recentWindow
  refine ⟨monitor.history.take skipped, monitor.history.drop skipped,
    (List.take_append_drop _ _).symm, ?_, rfl⟩
  rw [List.length_drop]
  omega

variable (booked : Booked window account)
include booked

theorem Booked.mem_active_iff :
    id ∈ account.monitor.active.keys ↔ id ∈ account.started ∧ id ∉ account.ended := by
  rw [OrderedMap.mem_keys_iff, booked.active]

theorem Booked.mem_fulfilled_iff :
    id ∈ account.monitor.fulfilled.keys ↔ id ∈ account.ended := by
  rw [OrderedMap.mem_keys_iff, booked.fulfilled]

/-- The record of a transaction that ended has the time that the history shows. -/
theorem Booked.isSome_elapsed (ended : id ∈ account.ended) :
    ((account.monitor.fulfilled.get? id).bind Timing.elapsed?).isSome := by
  let shown (id : Nat) := (account.monitor.fulfilled.get? id).bind Timing.elapsed?
  have member : shown id ∈ account.ended.map shown := List.mem_map_of_mem ended
  rw [← booked.history] at member
  rcases List.mem_map.mp member with ⟨elapsed, _, is⟩
  exact Option.isSome_of_eq_some is.symm

/-- A record is open, and has no elapsed time, just while its transaction is under way. -/
theorem Booked.isOpen_iff {timing : Timing} (found : account.monitor.timing? id = some timing) :
    (timing.isOpen ↔ id ∈ account.monitor.active.keys) ∧
      (timing.elapsed? = none ↔ id ∈ account.monitor.active.keys) := by
  by_cases active : id ∈ account.monitor.active.keys
  · rcases Option.isSome_iff_exists.mp ((OrderedMap.mem_keys_iff _ id).mp active) with ⟨held, is⟩
    rw [timing?, is] at found
    have underWay := booked.underWay id timing (is.trans found)
    exact ⟨iff_of_true underWay.1 active, iff_of_true underWay.2 active⟩
  · rw [timing?_of_not_active active] at found
    have closed := booked.closed id timing found
    have ended := (booked.fulfilled id).mp (Option.isSome_of_eq_some found)
    have some := booked.isSome_elapsed ended
    rw [found, Option.bind_some] at some
    exact ⟨iff_of_false (Bool.eq_false_iff.mp closed) active,
      iff_of_false (Option.isSome_iff_ne_none.mp some) active⟩

/-- Books that agree with the account are balanced. -/
theorem Booked.balanced : Balanced window account where
  apart id active fulfilled :=
    (booked.mem_active_iff.mp active).2 (booked.mem_fulfilled_iff.mp fulfilled)
  started id := by
    rw [booked.mem_active_iff, booked.mem_fulfilled_iff]
    constructor
    · exact fun started => (Classical.em (id ∈ account.ended)).symm.imp_left (⟨started, ·⟩)
    · exact fun either => either.elim And.left (booked.begun id)
  isOpen _ _ found := booked.isOpen_iff found
  ended := by
    rw [List.perm_ext_iff_of_nodup booked.once booked.fulfilledAscending.keys_nodup]
    exact fun id => booked.mem_fulfilled_iff.symm
  history := by
    rw [booked.history]
    refine List.map_congr_left fun id ended => ?_
    rw [timing?_of_not_active fun active => (booked.mem_active_iff.mp active).2 ended]
  maxActive := booked.peak
  refused now id gone :=
    ⟨finish_of_none (get?_of_not_active gone) now, serve_of_none (get?_of_not_active gone) now⟩
  recent := booked.recentWindow ▸ account.monitor.recent_part

end Records

/-- The books of a monitor are balanced, whatever it was asked. -/
theorem balanced_after (window : Nat) (calls : List Call) :
    Balanced window ((Account.opening window).after calls) :=
  ((booked_opening window).after calls).balanced

end LiveTable.Monitor
