import LiveTable.Proofs.Engine.Deliveries
import LiveTable.Proofs.Engine.Moments

/-!
# Accounts of subscriptions

At each point of a run a subscription is even: what its callback was called with, together
with what is on the agenda for it, is what it is due for the batches delivered while it was
there.

What an activity comes to for a subscription can be told before it is carried out, since a
batch is of one table and the registry lists a callback once.  Only the first activity of an
agenda relays a batch to those who watch when it comes to them, so nothing that happens
later changes what the others come to.
-/

set_option autoImplicit false

namespace LiveTable

/-! ## What subscriptions are due -/

/-- What a batch comes to for one who watches a table, or nothing. -/
def promptedBy (batch : List Change) : Option String → List Notice
  | some table => if Touches batch table then [.table table] else []
  | none => []

/-- A batch of one table prompts those who watch it. -/
theorem promptedBy_of_isBatchOf {name : String} {batch : List Change} (only : IsBatchOf name batch)
    (table? : Option String) :
    promptedBy batch table? = if table? = some name then [.table name] else [] := by
  cases table? with
  | none => rfl
  | some table =>
      rw [promptedBy]
      by_cases same : table = name
      · subst same
        rcases List.exists_mem_of_ne_nil batch only.1 with ⟨change, member⟩
        rw [if_pos rfl, if_pos ⟨change, member, only.2 change member⟩]
      · rw [if_neg fun other => same (Option.some.inj other), if_neg]
        rintro ⟨change, member, rfl⟩
        exact same (only.2 change member)

namespace Moment

/-- A number under which a callback has come to watch a table. -/
def Subscribed (history : List Moment) (id : Nat) : Prop :=
  ∃ table, subscribed id table ∈ history

/-- What the watcher of a number is due, whatever it watched at the time. -/
def owed : List Moment → Nat → List Notice
  | [], _ => []
  | delivered batch :: earlier, id => owed earlier id ++ promptedBy batch (watched earlier id)
  | _ :: earlier, id => owed earlier id

theorem subscribed_of_watched
    {history : List Moment} {id : Nat} {table : String}
    (watches : watched history id = some table) :
    subscribed id table ∈ history := by
  induction history with
  | nil => contradiction
  | cons moment earlier ih =>
      cases moment with
      | subscribed new other =>
          rw [watched] at watches
          split at watches
          · next same =>
              rw [same, Option.some.inj watches]
              exact List.mem_cons_self
          · exact List.mem_cons_of_mem _ (ih watches)
      | ended former =>
          rw [watched] at watches
          split at watches
          · contradiction
          · exact List.mem_cons_of_mem _ (ih watches)
      | _ => exact List.mem_cons_of_mem _ (ih watches)

/-- One who has only ever watched one table is due what a subscription to it is due. -/
theorem owed_eq_due
    {history : List Moment} {id : Nat} {table : String}
    (only : ∀ other, subscribed id other ∈ history → other = table) :
    owed history id = due table id history := by
  induction history with
  | nil => rfl
  | cons moment earlier ih =>
      have same := ih fun other member => only other (List.mem_cons_of_mem _ member)
      cases moment with
      | delivered batch =>
          rw [owed, due, same]
          cases watches : watched earlier id with
          | none => rw [promptedBy, if_neg fun both => nomatch both.1]
          | some other =>
              have agrees := only other (List.mem_cons_of_mem _ (subscribed_of_watched watches))
              rw [promptedBy, agrees]
              simp only [true_and]
      | _ => exact same

section Append

variable {later : List Moment} (history : List Moment)

/-- Between two turns the same tables are watched. -/
theorem watched_append (none : ∀ moment ∈ later, moment.isTurn = false) :
    watched (later ++ history) = watched history := by
  induction later with
  | nil => rfl
  | cons moment rest ih =>
      have same := ih fun other member => none other (List.mem_cons_of_mem _ member)
      have still := none moment List.mem_cons_self
      funext id
      cases moment with
      | subscribed | ended => contradiction
      | _ => exact congrFun same id

theorem subscribed_append (none : ∀ moment ∈ later, moment.isTurn = false) :
    Subscribed (later ++ history) = Subscribed history := by
  funext id
  refine propext (exists_congr fun table => ?_)
  rw [List.mem_append, or_iff_right]
  exact fun member => absurd (none _ member) (Bool.noConfusion ·)

/-- Only deliveries make anything due. -/
theorem owed_append (none : ∀ moment ∈ later, moment.passed = []) (id : Nat) :
    owed (later ++ history) id = owed history id := by
  induction later with
  | nil => rfl
  | cons moment rest ih =>
      have same := ih fun other member => none other (List.mem_cons_of_mem _ member)
      have still := none moment List.mem_cons_self
      cases moment with
      | delivered batch => contradiction
      | _ => exact same

end Append

end Moment

/-! ## What is on the agenda -/

/-- Whether an activity passes a batch on, before watchers are alerted. -/
def Activity.isRelay : Activity → Bool
  | .tell _ _ | .dispatch _ _ | .visit _ _ => true
  | _ => false

/-- An activity that relays, if it does, a batch of one table to the present registry. -/
def Activity.Current (generation : Nat) : Activity → Prop
  | .tell (.registry told) batch | .dispatch told batch =>
    told = generation ∧ ∃ name, IsBatchOf name batch
  | .tell (.callback _) _ => False
  | .visit told _ => told = generation
  | _ => True

/-- What an activity comes to for the callback of a number, which watches a table or nothing. -/
def Activity.owes (table? : Option String) (id : Nat) : Activity → List Notice
  | .call callback notice => if callback.id = id then [notice] else []
  | .alert (.callback callback) table => if callback.id = id then [.table table] else []
  | .tell _ batch | .dispatch _ batch => promptedBy batch table?
  | .visit _ table => if table? = some table then [.table table] else []
  | _ => []

theorem Activity.isTurn_moments
    {activity : Activity} (other : activity.subscribes = false) (engine : Engine) :
    ∀ moment ∈ activity.moments engine, moment.isTurn = false := by
  intro moment member
  cases brings_of_mem member with
  | beginning name table reaction => contradiction
  | ending subscribes id =>
      rw [other] at subscribes
      contradiction
  | _ => rfl

theorem Activity.passed_moments
    {activity : Activity} (other : activity.isDelivery = false) (engine : Engine) :
    ∀ moment ∈ activity.moments engine, moment.passed = [] := by
  intro moment member
  cases brings_of_mem member with
  | delivery delivered batch => contradiction
  | _ => rfl

/-- Nothing but a call tells a callback anything. -/
theorem Activity.calls_moments
    {activity : Activity} (other : ∀ callback notice, activity ≠ .call callback notice)
    (engine : Engine) (id : Nat) :
    Moment.calls (activity.moments engine) id = [] := by
  apply List.flatMap_eq_nil_iff.mpr
  intro moment member
  cases brings_of_mem (List.mem_reverse.mp member) with
  | call callback notice => exact absurd rfl (other callback notice)
  | _ => rfl

section Beside

variable {activity : Activity} (beside : activity.isBeside)

include beside

theorem Activity.isDelivery_of_isBeside : activity.isDelivery = false := by
  cases activity <;> first | rfl | contradiction

theorem Activity.subscribes_of_isBeside : activity.subscribes = false := by
  cases activity with
  | perform command =>
      show command.subscribes = false
      simpa using (Bool.and_eq_true_iff.mp beside).2
  | _ => rfl

/-- What is beside subscriptions comes to what callbacks are called with in it. -/
theorem Activity.owes_of_isBeside (engine : Engine) (table? : Option String) (id : Nat) :
    activity.owes table? id = Moment.calls (activity.moments engine) id := by
  cases activity with
  | call callback notice => simp [moments, Moment.calls, Moment.told, owes]
  | tell | dispatch | visit | deliver => contradiction
  | alert watcher table =>
      cases watcher with
      | callback callback => contradiction
      | _ => rfl
  | _ => exact (calls_moments (by simp) _ id).symm

end Beside

theorem Activity.isRelay_of_foreign
    {own : Nat → Prop} {engine : Engine} {activity : Activity}
    (foreign : activity.Foreign own engine) :
    activity.isRelay = false := by
  cases activity with
  | tell | dispatch | visit => exact foreign.elim
  | _ => rfl

/-- A subscription begins under the next number. -/
theorem Activity.of_subscribed_mem
    {activity : Activity} {engine : Engine} {id : Nat} {table : String}
    (member : .subscribed id table ∈ activity.moments engine) :
    id = engine.nextId ∧
      ∃ name reaction, activity = .perform (.watch (.create name table reaction)) := by
  cases brings_of_mem member with
  | beginning name table reaction => exact ⟨rfl, name, reaction, rfl⟩

/-- Nothing but the first activity of an agenda relays. -/
def Relaying (generation : Nat) : List Activity → Prop
  | [] => True
  | activity :: rest => activity.Current generation ∧ ∀ found ∈ rest, found.isRelay = false

theorem relaying_of_none {generation : Nat} {activities : List Activity}
    (none : ∀ found ∈ activities, found.isRelay = false) :
    Relaying generation activities := by
  cases activities with
  | nil => trivial
  | cons activity rest =>
      refine ⟨?_, fun found member => none found (List.mem_cons_of_mem _ member)⟩
      have still := none activity List.mem_cons_self
      cases activity <;> trivial

/-- What is on an agenda for the callback of a number. -/
def owing (history : List Moment) (id : Nat) (activities : List Activity) : List Notice :=
  activities.flatMap (Activity.owes (Moment.watched history id) id)

section Owing

variable (history : List Moment) (id : Nat)

@[simp]
theorem owing_nil : owing history id [] = [] :=
  rfl

@[simp]
theorem owing_cons (activity : Activity) (rest : List Activity) :
    owing history id (activity :: rest) =
      activity.owes (Moment.watched history id) id ++ owing history id rest :=
  rfl

@[simp]
theorem owing_append (first second : List Activity) :
    owing history id (first ++ second) = owing history id first ++ owing history id second :=
  List.flatMap_append

variable {history id}

/-- Where nothing relays, it does not matter what is watched. -/
theorem owing_of_none {activities : List Activity}
    (none : ∀ found ∈ activities, found.isRelay = false) (later : List Moment) :
    owing later id activities = owing history id activities := by
  apply List.flatMap_congr
  intro activity member
  have still := none activity member
  cases activity with
  | tell | dispatch | visit => contradiction
  | alert watcher table => cases watcher <;> rfl
  | _ => rfl

/-- What is foreign to subscriptions comes to nothing for them. -/
theorem owing_of_foreign
    {own : Nat → Prop} {engine : Engine} (subscribed : ¬ engine.Foreign own id)
    {activities : List Activity} (foreign : ∀ activity ∈ activities, activity.Foreign own engine) :
    owing history id activities = [] := by
  apply List.flatMap_eq_nil_iff.mpr
  intro activity member
  have other := foreign activity member
  cases activity with
  | call callback notice =>
      apply if_neg
      rintro rfl
      exact subscribed other
  | tell | dispatch | visit | alert => exact other.elim
  | _ => rfl

end Owing

/-- The account of a subscription at a point of a run. -/
structure Account (history : List Moment) (id : Nat) (agenda : List Activity) : Prop where
  /-- What it was called with and what is on the agenda for it is what it is due. -/
  even : Moment.calls history id ++ owing history id agenda = Moment.owed history id
  /-- After the last delivery there is nothing on the agenda for it. -/
  backed {rest : List Activity} (suffix : rest <:+ agenda) (last : deliveries rest = 0) :
    owing history id rest = []

namespace Account

variable {history later : List Moment} {id : Nat} {activity : Activity} {new rest : List Activity}

/--
An account stays even when an activity other than a delivery is replaced by others: what it
comes to is what the callback is told by then and what the others come to.
-/
theorem pass
    (account : Account history id (activity :: rest)) (other : activity.isDelivery = false)
    (relays : ∀ found ∈ rest, found.isRelay = false)
    {told : List Notice} (calls : Moment.calls later id = Moment.calls history id ++ told)
    (owed : Moment.owed later id = Moment.owed history id)
    (passes : activity.owes (Moment.watched history id) id = told ++ owing later id new) :
    Account later id (new ++ rest) := by
  have kept : owing later id rest = owing history id rest := owing_of_none relays later
  constructor
  · rw [owing_append, calls, owed, ← account.even, owing_cons, passes, kept]
    simp only [List.append_assoc]
  · rintro suffix ⟨early, split⟩ last
    rcases List.append_eq_append_iff.mp split with ⟨middle, whole, rfl⟩ | ⟨middle, _, whole⟩
    · -- The activity was on the agenda after the last delivery, and so came to nothing.
      rw [deliveries_append, Nat.add_eq_zero_iff] at last
      have none : owing history id (activity :: rest) = [] := by
        apply account.backed (List.suffix_refl _)
        rw [deliveries_cons, other, last.2]
        rfl
      rw [owing_cons, passes, whole, owing_append] at none
      simp only [List.append_eq_nil_iff] at none
      rw [owing_append, kept, none.1.2.2, none.2]
      rfl
    · have among : suffix <:+ activity :: rest :=
        (whole ▸ List.suffix_append middle suffix).trans (List.suffix_cons activity rest)
      have remaining : ∀ found ∈ suffix, found.isRelay = false := by
        intro found member
        apply relays
        rw [whole]
        exact List.mem_append_right _ member
      rw [owing_of_none remaining later]
      exact account.backed among last

/-- A delivery that finds nothing to deliver is over. -/
theorem finish
    {delivered : Nat} (account : Account history id (.deliver delivered :: rest)) :
    Account history id rest where
  even := account.even
  backed suffix last := account.backed (suffix.trans (List.suffix_cons _ _)) last

/-- A delivery puts what its batch comes to on the agenda, and goes on behind it. -/
theorem deliver
    {delivered count : Nat} {batch : List Change}
    (account : Account history id (.deliver delivered :: rest)) (only : deliveries rest = 0)
    (prompts : owing history id new = promptedBy batch (Moment.watched history id)) :
    Account (.delivered batch :: history) id (new ++ .deliver count :: rest) := by
  have none : owing history id rest = [] :=
    account.backed (List.suffix_cons _ _) only
  have even := account.even
  rw [owing_cons, none, List.append_nil] at even
  have calls : Moment.calls (.delivered batch :: history) id = Moment.calls history id :=
    (Moment.calls_append history [.delivered batch] id).trans (List.append_nil _)
  constructor
  · show _ ++ owing history id _ = _ ++ promptedBy batch _
    rw [calls, owing_append, prompts, owing_cons, none, ← even]
    simp only [Activity.owes, List.append_nil]
  · rintro suffix ⟨early, split⟩ last
    rcases List.append_eq_append_iff.mp split with ⟨middle, _, rfl⟩ | ⟨middle, _, whole⟩
    · simp [Activity.isDelivery] at last
    · have among : suffix <:+ .deliver count :: rest := ⟨middle, whole.symm⟩
      rcases List.suffix_cons_iff.mp among with rfl | among
      · simp [Activity.isDelivery] at last
      · exact account.backed (among.trans (List.suffix_cons _ _)) last

end Account

end LiveTable
