import LiveTable.Proofs.Engine.Storage
import LiveTable.Proofs.Engine.Termination
import LiveTable.Proofs.Store.Rows
import Mathlib.Data.Prod.Lex

/-!
# What is outstanding

Whatever a machine has to do has a weight: its activities, its tasks, the batches of its
outbox, and the rows of its store, of which a binding that erases makes batches.  A weight is
a rank and a size within the rank.  Commands have sizes, since a callback may run commands
that call callbacks at once, and so have routines, which queue smaller ones.

`Machine.Gains` says what a step puts in the place of what it takes away.  If that is lighter
than what was taken, less is outstanding afterwards.
-/

set_option autoImplicit false

namespace LiveTable

/-! ## Weights -/

/-- A rank, and a size within the rank. -/
abbrev Weight : Type :=
  Nat ×ₗ Nat

theorem lighter_of_rank {rank other : Nat} (below : rank < other) (size most : Nat) :
    (toLex (rank, size) : Weight) < toLex (other, most) :=
  Prod.Lex.left _ _ below

theorem lighter_of_size (rank : Nat) {size other : Nat} (smaller : size < other) :
    (toLex (rank, size) : Weight) < toLex (rank, other) :=
  Prod.Lex.right _ smaller

/-- Commands rank with the calls that they come from and lead to; their sizes tell them apart. -/
def Activity.rank : Activity → Nat
  | .perform _ => 6
  | activity => activity.level

/-- The size of what a command or a callback says. -/
noncomputable def Activity.size : Activity → Nat
  | .perform command => sizeOf command
  | .call callback _ => sizeOf callback.reaction
  | _ => 0

noncomputable def Activity.weight (activity : Activity) : Weight :=
  toLex (activity.rank, activity.size)

/-- Bindings and caches rank below what their units commit, all other tasks above it. -/
def Task.rank : Task → Nat
  | .unit _ .binding _ | .unit _ .cache _ => 9
  | _ => 16

theorem Task.le_rank (task : Task) : 9 ≤ task.rank := by
  unfold rank
  split <;> simp

noncomputable def Task.size : Task → Nat
  | .routine queued => sizeOf queued
  | _ => 0

noncomputable def Task.weight (task : Task) : Weight :=
  toLex (task.rank, task.size)

/-- The routines that a routine queues are parts of it. -/
theorem Routine.sizeOf_follower (routine : Routine) {follower : Routine}
    (member : follower ∈ routine.followers) : sizeOf follower < sizeOf routine := by
  rcases routine with ⟨label, followers, drains, failure?⟩
  have smaller : sizeOf follower < sizeOf followers := List.sizeOf_lt_of_mem member
  simp only [Routine.mk.sizeOf_spec]
  omega

/-- The commands that a callback runs are parts of what it does. -/
theorem Reaction.sizeOf_command (reaction : Reaction Command) {command : Command}
    (member : command ∈ reaction.commands) : sizeOf command < sizeOf reaction := by
  rcases reaction with ⟨label, commands, times⟩
  have smaller : sizeOf command < sizeOf commands := List.sizeOf_lt_of_mem member
  simp only [Reaction.mk.sizeOf_spec]
  omega

/-- The weight of a batch in the outbox. -/
def batchWeight : Weight :=
  toLex (14, 0)

/-- The weight of a row: that of the batch that may be made of it, and more. -/
def rowWeight : Weight :=
  toLex (15, 0)

theorem Activity.lighter {activity : Activity} {rank : Nat} (below : activity.rank < rank)
    (size : Nat) : activity.weight < toLex (rank, size) :=
  lighter_of_rank below _ _

namespace Machine

variable {machine before after : Machine} {activity : Activity} {top : Weight}
  {new : List Activity} {added : List Task} {committed : List (List Change)}

/-- How many rows the store of a machine has. -/
def rows (machine : Machine) : Nat :=
  machine.engine.store.tables.recordCount

/-- The weights of what is to be done. -/
noncomputable def burden (machine : Machine) : Multiset Weight :=
  (machine.agenda.map Activity.weight : List Weight) +
    (machine.engine.queue.map Task.weight : List Weight) +
    (machine.engine.store.outbox.map fun _ => batchWeight : List Weight) +
    Multiset.replicate machine.rows rowWeight

/-- A failure that is about to be read weighs what running tasks again does. -/
def fever (machine : Machine) : Multiset Weight :=
  machine.heat.map fun level => toLex (level, 0)

/-- What a step makes less. -/
noncomputable def outstanding (machine : Machine) : Multiset Weight :=
  machine.burden + machine.fever

theorem outstanding_facing (machine : Machine) (activity : Activity) :
    (machine.facing activity).outstanding =
      machine.burden + ({activity.weight} + (machine.facing activity).fever) := by
  simp only [outstanding, burden, facing, rows, List.map_cons, ← Multiset.cons_coe,
    ← Multiset.singleton_add]
  abel

theorem outstanding_of_cold (cold : machine.heat = 0) : machine.outstanding = machine.burden := by
  rw [outstanding, fever, cold, Multiset.map_zero, add_zero]

/-- The burden with a task in front of the queue. -/
theorem burden_of_queue {task : Task} {waiting : List Task}
    (queue : machine.engine.queue = task :: waiting) :
    machine.burden =
      (machine.become { machine.engine with queue := waiting }).burden + {task.weight} := by
  simp only [burden, rows, become, queue, List.map_cons, ← Multiset.cons_coe,
    ← Multiset.singleton_add]
  abel

/-- The burden with a batch in front of the outbox. -/
theorem burden_of_outbox {batch : List Change} {rest : List (List Change)}
    (outbox : machine.engine.store.outbox = batch :: rest) :
    machine.burden =
      (machine.become
        { machine.engine with store := { machine.engine.store with outbox := rest } }).burden +
        {batchWeight} := by
  simp only [burden, rows, become, outbox, List.map_cons, ← Multiset.cons_coe,
    ← Multiset.singleton_add]
  abel

/-! ## What comes in the place of something -/

/-- Activities come in front of the agenda, tasks and batches at the end, and all are light. -/
structure Gains (top : Weight) (before after : Machine) (new : List Activity)
    (added : List Task) (committed : List (List Change)) : Prop where
  agenda : after.agenda = new ++ before.agenda
  queue : after.engine.queue = before.engine.queue ++ added
  outbox : after.engine.store.outbox = before.engine.store.outbox ++ committed
  activities : ∀ activity ∈ new, activity.weight < top
  tasks : ∀ task ∈ added, task.weight < top
  batches : committed ≠ [] → batchWeight < top
  rows : before.rows < after.rows → rowWeight < top

/-- What was not gained was there before, and more than that only if rows are gone. -/
theorem Gains.burden (gains : Gains top before after new added committed) :
    ∃ kept lower,
      before.burden = kept + Multiset.replicate (before.rows - after.rows) rowWeight ∧
        after.burden = kept + lower ∧ ∀ weight ∈ lower, weight < top := by
  have split (count other : Nat) :
      Multiset.replicate count rowWeight =
        Multiset.replicate (min count other) rowWeight +
          Multiset.replicate (count - other) rowWeight := by
    rw [← Multiset.replicate_add, Nat.add_comm, Nat.sub_add_min_cancel]
  refine ⟨(before.agenda.map Activity.weight : List Weight) +
      (before.engine.queue.map Task.weight : List Weight) +
      (before.engine.store.outbox.map fun _ => batchWeight : List Weight) +
      Multiset.replicate (min before.rows after.rows) rowWeight,
    (new.map Activity.weight : List Weight) + (added.map Task.weight : List Weight) +
      (committed.map fun _ => batchWeight : List Weight) +
      Multiset.replicate (after.rows - before.rows) rowWeight, ?_, ?_, ?_⟩
  · rw [Machine.burden, split before.rows after.rows]
    abel
  · rw [Machine.burden, split after.rows before.rows, Nat.min_comm after.rows]
    simp only [gains.agenda, gains.queue, gains.outbox, List.map_append, ← Multiset.coe_add]
    abel
  · simp only [Multiset.mem_add, Multiset.mem_coe, List.mem_map]
    rintro weight (((⟨activity, member, rfl⟩ | ⟨task, member, rfl⟩) | ⟨batch, member, rfl⟩) | row)
    · exact gains.activities activity member
    · exact gains.tasks task member
    · exact gains.batches (List.ne_nil_of_mem member)
    · rw [Multiset.mem_replicate] at row
      rw [row.2]
      exact gains.rows (Nat.lt_of_sub_pos (Nat.pos_of_ne_zero row.1))

/--
Less is outstanding if something is used up, or rows are gone, and all that is gained is
lighter than that.
-/
theorem Gains.descends {former : Machine} {used : Multiset Weight}
    (gains : Gains top before after new added committed) (cold : after.heat = 0)
    (beforehand : former.outstanding = before.burden + used)
    (among : top ∈ used ∨ top = rowWeight ∧ after.rows < before.rows) :
    Multiset.IsDershowitzMannaLT after.outstanding former.outstanding := by
  rcases gains.burden with ⟨kept, lower, split, later, below⟩
  rw [split, add_assoc] at beforehand
  rw [outstanding_of_cold cold]
  refine smaller top beforehand (Multiset.mem_add.mpr ?_) later below
  rcases among with taken | ⟨rfl, gone⟩
  · exact Or.inr taken
  · exact Or.inl (Multiset.mem_replicate.mpr ⟨(Nat.sub_pos_of_lt gone).ne', rfl⟩)

/-- Activities that may stand in front of any agenda, and are light. -/
structure Light (top : Weight) (new : List Activity) : Prop where
  loose : Loose new
  lighter : ∀ activity ∈ new, activity.weight < top

theorem light_nil : Light top [] :=
  ⟨loose_nil, List.forall_mem_nil _⟩

theorem light_of_isPlain (plain : ∀ activity ∈ new, activity.isPlain ∧ activity.weight < top) :
    Light top new :=
  ⟨loose_of_isPlain fun activity member => (plain activity member).1,
    fun activity member => (plain activity member).2⟩

theorem light_calls {callbacks : List Callback} {rank : Nat} (room : 6 < rank) (size : Nat)
    (notice : Notice) : Light (toLex (rank, size)) (callbacks.map (Activity.call · notice)) := by
  apply light_of_isPlain
  rw [List.forall_mem_map]
  exact fun callback _ => ⟨rfl, lighter_of_rank room _ _⟩

theorem Light.append {late : List Activity} (early : Light top new) (light : Light top late) :
    Light top (new ++ late) :=
  ⟨loose_append early.loose light.loose, List.forall_mem_append.mpr ⟨early.lighter, light.lighter⟩⟩

/-- No batch comes, and there are as many rows as before. -/
theorem gains_of_rows (agenda : after.agenda = new ++ before.agenda)
    (queue : after.engine.queue = before.engine.queue ++ added)
    (outbox : after.engine.store.outbox = before.engine.store.outbox)
    (activities : ∀ activity ∈ new, activity.weight < top) (tasks : ∀ task ∈ added, task.weight < top)
    (rows : after.rows = before.rows) : Gains top before after new added [] where
  agenda := agenda
  queue := queue
  outbox := by rw [List.append_nil, outbox]
  activities := activities
  tasks := tasks
  batches some := absurd rfl some
  rows more := absurd (rows ▸ more) (Nat.lt_irrefl _)

/-- Nothing but activities comes. -/
theorem gains_of_store (agenda : after.agenda = new ++ before.agenda)
    (queue : after.engine.queue = before.engine.queue)
    (store : after.engine.store = before.engine.store)
    (activities : ∀ activity ∈ new, activity.weight < top) : Gains top before after new [] [] := by
  apply gains_of_rows agenda ?_ ?_ activities (List.forall_mem_nil _) ?_
  · rw [List.append_nil, queue]
  · rw [store]
  · rw [rows, rows, store]

/-- What comes may come in any place; none of it is a batch or a row. -/
inductive Yields (top : Weight) (before after : Machine) : Prop where
  | intro {new : List Activity} {added : List Task} (gains : Gains top before after new added [])
      (loose : Loose new) :
      Yields top before after

theorem yields_light (light : Light top new) (agenda : after.agenda = new ++ before.agenda)
    (queue : after.engine.queue = before.engine.queue)
    (store : after.engine.store = before.engine.store) : Yields top before after :=
  .intro (gains_of_store agenda queue store light.lighter) light.loose

theorem yields_nothing (agenda : after.agenda = before.agenda)
    (queue : after.engine.queue = before.engine.queue)
    (store : after.engine.store = before.engine.store) : Yields top before after :=
  yields_light light_nil agenda queue store

end Machine

end LiveTable
