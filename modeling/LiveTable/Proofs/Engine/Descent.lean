import LiveTable.Proofs.Engine.Yields

/-!
# Draining comes to an end

With every step of a machine less is outstanding, as long as the commands of its callbacks
queue nothing.  For a task, a batch or a row that is used up is heavier than all that comes
of it: what a request commits weighs less than the request, a binding that erases makes fewer
rows, and to run tasks again for the sake of a request takes that one of them has failed.
-/

set_option autoImplicit false

namespace LiveTable

namespace Machine

variable {machine before after : Machine} {activity : Activity} {top : Weight}

/-- Less is outstanding after an activity, and what is to be done is in order. -/
structure Lessens (activity : Activity) (machine after : Machine) : Prop where
  ordered : List.IsChain Activity.Before after.agenda
  less : Multiset.IsDershowitzMannaLT after.outstanding (machine.facing activity).outstanding

theorem weight_mem (machine : Machine) (activity : Activity) :
    activity.weight ∈ ({activity.weight} + (machine.facing activity).fever : Multiset Weight) :=
  Multiset.mem_add.mpr (Or.inl (Multiset.mem_singleton_self _))

theorem heat_of_head {first : Activity} {rest : List Activity}
    (agenda : machine.agenda = first :: rest) (reads : first.reads = false) : machine.heat = 0 := by
  rw [heat, agenda, List.head?_cons, Option.any_some, reads]

/-- What yields what is lighter than itself, or than a failure that it reads, lessens. -/
theorem Yields.lessens (yields : Yields top machine after) (free : activity.isFree)
    (ordered : List.IsChain Activity.Before (activity :: machine.agenda))
    (among : top ∈ ({activity.weight} + (machine.facing activity).fever : Multiset Weight)) :
    Lessens activity machine after := by
  rcases yields with ⟨gains, loose⟩
  have loose : Loose after.agenda := by
    rw [gains.agenda]
    exact loose_append loose (loose_of_isFree free ordered)
  exact ⟨(loose .flush).tail,
    gains.descends (heat_of_loose loose) (machine.outstanding_facing activity) (Or.inl among)⟩

/-! ## Failures and requests -/

/-- A failure that is read weighs enough to run tasks again. -/
theorem fever_of_error {error : Error} (reply : machine.reply = .drained (.error error))
    (reads : activity.reads) : (machine.facing activity).fever = {toLex (4, 0)} := by
  rw [fever, heat_of_error reply reads, Multiset.map_singleton]

theorem fever_cases (machine : Machine) :
    machine.fever = 0 ∨
      machine.fever = {toLex (4, 0)} ∧ ∃ error, machine.reply = .drained (.error error) := by
  rcases machine.heat_cases with cold | hot
  · rw [fever, cold]
    exact Or.inl rfl
  · refine Or.inr ⟨?_, reply_of_heat hot⟩
    rw [fever, hot, Multiset.map_singleton]

theorem lessens_drain_failed {ran : Nat} {failure : Error}
    (ordered : List.IsChain Activity.Before (.drain ran (some failure) :: machine.agenda)) :
    Lessens (.drain ran (some failure)) machine (machine.say (.drained (.error failure))) where
  ordered := ordered.tail
  less := by
    apply smaller (Activity.drain ran (some failure)).weight (machine.outstanding_facing _)
      (machine.weight_mem _) rfl
    rcases fever_cases (machine.say (.drained (.error failure))) with cold | ⟨hot, _⟩
    · rw [cold]
      exact fun _ member => absurd member (Multiset.notMem_zero _)
    · rw [hot]
      intro weight member
      rw [Multiset.mem_singleton.mp member]
      exact lighter_of_rank (Nat.lt_succ_self 4) _ _

/-- An activity that changes nothing but the reply, and leaves no failure to be read, is gone. -/
theorem lessens_say {reply : Reply}
    (ordered : List.IsChain Activity.Before (activity :: machine.agenda))
    (cold : (machine.say reply).heat = 0) : Lessens activity machine (machine.say reply) where
  ordered := ordered.tail
  less := by
    rw [outstanding_of_cold cold]
    exact fewer (machine.outstanding_facing activity) (machine.weight_mem activity)

theorem lessens_afterDrain
    (ordered : List.IsChain Activity.Before (.afterDrain :: machine.agenda)) :
    Lessens .afterDrain machine machine.afterDrain := by
  rw [afterDrain]
  split
  · next ran reply =>
      have gains : Gains Activity.afterDrain.weight machine
          (machine.next [.flush, .answer (.drained (.ok ran))])
          [.flush, .answer (.drained (.ok ran))] [] [] := by
        refine gains_of_store rfl rfl rfl ?_
        rw [List.forall_mem_cons, List.forall_mem_singleton]
        exact ⟨lighter_of_rank (Nat.lt_succ_self 2) _ _, lighter_of_rank (Nat.zero_lt_succ 2) _ _⟩
      refine ⟨.cons_cons trivial (ordered_answer ordered), ?_⟩
      exact gains.descends (heat_of_head rfl rfl) (machine.outstanding_facing _)
        (Or.inl (machine.weight_mem _))
  · refine ⟨ordered.tail, ?_⟩
    have beforehand := machine.outstanding_facing .afterDrain
    rcases machine.fever_cases with cold | ⟨hot, error, failed⟩
    · rw [outstanding, cold, add_zero]
      exact fewer beforehand (machine.weight_mem _)
    · -- The failure is still to be read, so only the activity itself is gone.
      rw [fever_of_error failed rfl, add_comm {_}, ← add_assoc] at beforehand
      rw [outstanding, hot]
      exact fewer beforehand (Multiset.mem_singleton_self _)

theorem light_rerun (id : Nat) : Light (toLex (4, 0)) (running ++ [.recheck id]) where
  loose := loose_cons rfl (.cons_cons ⟨0, none, rfl⟩ (.cons_cons (Or.inl rfl) (.singleton _)))
  lighter := List.forall_mem_append.mpr ⟨(light_running (Nat.lt_succ_self 3) 0).lighter,
    List.forall_mem_singleton.mpr (lighter_of_rank (Nat.zero_lt_succ 3) _ _)⟩

theorem lessens_resolve {id : Nat}
    (ordered : List.IsChain Activity.Before (.resolve id :: machine.agenda)) :
    Lessens (.resolve id) machine (machine.resolve id) := by
  have among := machine.weight_mem (.resolve id)
  rw [resolve]
  cases held : machine.engine.outcomes.get? id with
  | some outcome =>
      rw [takeOr_of_some _ held]
      exact Yields.lessens (yields_nothing rfl rfl rfl) rfl ordered among
  | none =>
      rw [takeOr_of_none _ held]
      exact Yields.lessens (yields_light (light_rerun id) rfl rfl rfl) rfl ordered among

/-- Tasks are run again for a request only after one has failed. -/
theorem lessens_recheck {id : Nat}
    (ordered : List.IsChain Activity.Before (.recheck id :: machine.agenda)) :
    Lessens (.recheck id) machine (machine.recheck id) := by
  have among := machine.weight_mem (.recheck id)
  rw [recheck]
  cases held : machine.engine.outcomes.get? id with
  | some outcome =>
      rw [takeOr_of_some _ held]
      exact Yields.lessens (yields_nothing rfl rfl rfl) rfl ordered among
  | none =>
      rw [takeOr_of_none _ held]
      split
      · next error reply =>
          refine Yields.lessens (yields_light (light_rerun id) rfl rfl rfl) rfl ordered ?_
          rw [fever_of_error reply rfl]
          exact Multiset.mem_add.mpr (Or.inr (Multiset.mem_singleton_self _))
      · exact Yields.lessens (yields_nothing rfl rfl rfl) rfl ordered among

theorem lessens_answer {reply : Reply}
    (ordered : List.IsChain Activity.Before (.answer reply :: machine.agenda)) :
    Lessens (.answer reply) machine (machine.say reply) := by
  by_cases final : (Activity.answer reply).isFinal
  · apply lessens_say ordered
    apply heat_of_reply
    rintro error same
    obtain rfl : reply = .drained (.error error) := same
    contradiction
  · exact Yields.lessens (yields_nothing rfl rfl rfl) (isFree_of_not_final final) ordered
      (machine.weight_mem _)

/-! ## Batches -/

theorem lessens_deliver {count : Nat}
    (ordered : List.IsChain Activity.Before (.deliver count :: machine.agenda)) :
    Lessens (.deliver count) machine (machine.deliver count) := by
  cases outbox : machine.engine.store.outbox with
  | nil =>
      have nothing : machine.deliver count =
          machine.conclude (.number count, { machine.engine with isFlushing := false }) := by
        simp only [deliver, outbox]
      rw [nothing]
      exact Yields.lessens (yields_nothing rfl rfl rfl) rfl ordered (machine.weight_mem _)
  | cons batch rest =>
      rw [deliver_of_batch outbox]
      have passed : Light batchWeight
          (machine.engine.listeners.all.map (.tell · batch) ++ [.deliver (count + 1)]) := by
        apply light_of_isPlain
        rw [List.forall_mem_append, List.forall_mem_map, List.forall_mem_singleton]
        exact ⟨fun listener _ => ⟨rfl, lighter_of_rank (Nat.lt_succ_self 13) _ _⟩,
          rfl, lighter_of_rank (by decide : 1 < 14) _ _⟩
      have loose := loose_append passed.loose (loose_of_isFree rfl ordered)
      refine ⟨(loose .flush).tail, ?_⟩
      have beforehand := machine.outstanding_facing (.deliver count)
      rw [burden_of_outbox outbox, add_assoc] at beforehand
      refine Gains.descends (gains_of_store rfl rfl rfl passed.lighter) ?_ beforehand ?_
      · exact heat_of_loose loose
      · exact Or.inl (Multiset.mem_add.mpr (Or.inl (Multiset.mem_singleton_self _)))

/-! ## Tasks -/

/-- At most one is told, of something that weighs less than the unit and reads no drain. -/
inductive Told (task : Task) : List Activity → Prop where
  | nobody : Told task []
  | one {activity : Activity} (reads : activity.reads = false) (below : activity.rank < task.rank) :
      Told task [activity]

theorem told_succeed (executor clock : Nat) (job : Job) (outcome : Outcome) :
    Told (.unit executor job clock) (job.succeed executor outcome) := by
  cases job with
  | binding =>
      cases outcome with
      | result result => exact .one rfl (by decide : 8 < 9)
      | _ => exact .nobody
  | cache =>
      cases outcome with
      | result result => exact .one rfl (by decide : 8 < 9)
      | _ => exact .nobody
  | request unit => exact .one rfl (by decide : 0 < 16)
  | callback unit? target reportsFailure =>
      cases outcome with
      | answers answers => exact .one rfl (by decide : 6 < 16)
      | _ => exact .nobody

theorem told_fail (executor clock : Nat) (job : Job) (failure : OperationFailure) :
    Told (.unit executor job clock) (job.fail executor failure) := by
  cases job with
  | binding => exact .nobody
  | cache => exact .nobody
  | request unit => exact .one rfl (by decide : 0 < 16)
  | callback unit? target reportsFailure =>
      cases reportsFailure with
      | false => exact .nobody
      | true => exact .one rfl (by decide : 6 < 16)

/-- The unit of a binding or a cache is a query; all other units rank above batches and rows. -/
theorem query_or_rank {engine : Engine} {executor : Nat} {job : Job} {unit : WorkUnit}
    (prepared : engine.unit? executor job = some unit) (clock : Nat) :
    ((∃ table mode descriptor, unit = ⟨table, mode, .query descriptor⟩) ∧
        (Task.unit executor job clock).rank = 9) ∨
      (Task.unit executor job clock).rank = 16 := by
  cases job with
  | binding =>
      rcases Option.bind_eq_some_iff.mp prepared with ⟨binding, _, made⟩
      rw [Binding.unit?] at made
      split at made
      · contradiction
      · exact Or.inl ⟨⟨_, _, _, (Option.some.inj made).symm⟩, rfl⟩
  | cache =>
      rcases Option.bind_eq_some_iff.mp prepared with ⟨cache, _, made⟩
      rw [ItemCache.unit?] at made
      split at made
      · contradiction
      · exact Or.inl ⟨⟨_, _, _, (Option.some.inj made).symm⟩, rfl⟩
  | request unit => exact Or.inr rfl
  | callback unit? target reportsFailure => exact Or.inr rfl

/-- A unit at the head of the queue, about to run: what it commits is lighter than its task. -/
theorem gains_unit (sound : machine.engine.store.Sound) {executor clock : Nat} {job : Job}
    {waiting : List Task} {unit : WorkUnit} {new : List Activity}
    (prepared : machine.engine.unit? executor job = some unit)
    (agenda : after.agenda = new ++ machine.agenda) (queue : after.engine.queue = waiting)
    (store : after.engine.store = (machine.engine.store.attempt unit).2)
    (below : ∀ activity ∈ new, activity.rank < (Task.unit executor job clock).rank) :
    ∃ top committed,
      Gains top (machine.become { machine.engine with queue := waiting }) after new [] committed ∧
        (top = (Task.unit executor job clock).weight ∨
          top = rowWeight ∧ after.rows < machine.rows) := by
  let task : Task := .unit executor job clock
  have queue : after.engine.queue = waiting ++ [] := by rw [queue, List.append_nil]
  rcases query_or_rank prepared clock with
    ⟨⟨table, mode, descriptor, rfl⟩, rank⟩ | rank
  · rcases Store.attempt_query_rows sound table mode descriptor with
      ⟨outbox, rows⟩ | ⟨batch, outbox, fewer⟩
    · rw [← store] at outbox rows
      exact ⟨task.weight, [], gains_of_rows agenda queue outbox
        (fun activity member => Activity.lighter (below activity member) _) (List.forall_mem_nil _)
        rows,
        Or.inl rfl⟩
    · rw [← store] at outbox fewer
      refine ⟨rowWeight, [batch], ⟨agenda, queue, outbox, ?_, List.forall_mem_nil _,
        fun _ => lighter_of_rank (Nat.lt_succ_self 14) _ _, fun more => ?_⟩, Or.inr ⟨rfl, fewer⟩⟩
      · intro activity member
        rw [rank] at below
        exact Activity.lighter (Nat.lt_trans (below activity member) (by decide : 9 < 15)) _
      · exact absurd (Nat.lt_trans more fewer) (Nat.lt_irrefl _)
  · rcases machine.engine.store.attempt_outbox unit with ⟨committed, outbox⟩
    rw [← store] at outbox
    have room {level : Nat} (light : level < 16) :
        (toLex (level, 0) : Weight) < task.weight := by
      rw [Task.weight, rank]
      exact lighter_of_rank light _ _
    exact ⟨task.weight, committed, ⟨agenda, queue, outbox,
      fun activity member => Activity.lighter (below activity member) _, List.forall_mem_nil _,
      fun _ => room (by decide : 14 < 16), fun _ => room (Nat.lt_succ_self 15)⟩, Or.inl rfl⟩

/-- The first task has run, and what comes of it is lighter than the task or than a row. -/
theorem lessens_task {task : Task} {waiting : List Task} {new : List Activity}
    {added : List Task} {committed : List (List Change)}
    (queue : machine.engine.queue = task :: waiting)
    (gains : Gains top (machine.become { machine.engine with queue := waiting }) after new added
      committed)
    (among : top = task.weight ∨ top = rowWeight ∧ after.rows < machine.rows)
    (ordered : List.IsChain Activity.Before after.agenda) (cold : after.heat = 0) :
    Lessens activity machine after := by
  refine ⟨ordered, ?_⟩
  have beforehand := machine.outstanding_facing activity
  rw [burden_of_queue queue, add_assoc] at beforehand
  apply gains.descends cold beforehand
  rcases among with rfl | gone
  · exact Or.inl (Multiset.mem_add.mpr (Or.inl (Multiset.mem_singleton_self _)))
  · exact Or.inr gone

/-- After a unit somebody is told, the feed is flushed, and the drain goes on. -/
theorem lessens_told {executor clock ran again : Nat} {job : Job} {waiting : List Task}
    {unit : WorkUnit} {told : List Activity} {failure? other? : Option Error}
    (sound : machine.engine.store.Sound)
    (ordered : List.IsChain Activity.Before (.drain ran failure? :: machine.agenda))
    (queue : machine.engine.queue = .unit executor job clock :: waiting)
    (prepared : machine.engine.unit? executor job = some unit)
    (tells : Told (.unit executor job clock) told)
    (agenda : after.agenda = told ++ [.flush, .drain again other?] ++ machine.agenda)
    (left : after.engine.queue = waiting)
    (store : after.engine.store = (machine.engine.store.attempt unit).2) :
    Lessens activity machine after := by
  have onwards : List.IsChain Activity.Before (.drain again other? :: machine.agenda) :=
    ordered_drain ordered
  have room := Task.le_rank (.unit executor job clock)
  have below : ∀ activity ∈ told ++ [.flush, .drain again other?],
      activity.rank < (Task.unit executor job clock).rank := by
    rw [List.forall_mem_append, List.forall_mem_cons, List.forall_mem_singleton]
    refine ⟨?_, Nat.lt_of_lt_of_le (by decide : 2 < 9) room, ?_⟩
    · cases tells with
      | nobody => exact List.forall_mem_nil _
      | one _ below => exact List.forall_mem_singleton.mpr below
    · cases other? with
      | none => exact Nat.lt_of_lt_of_le (by decide : 0 < 9) room
      | some failure => exact Nat.lt_of_lt_of_le (by decide : 5 < 9) room
  rcases gains_unit sound prepared agenda left store below with ⟨top, committed, gains, among⟩
  refine lessens_task queue gains among ?_ ?_
  · rw [agenda]
    cases tells with
    | nobody => exact .cons_cons trivial onwards
    | one => exact .cons_cons trivial (.cons_cons trivial onwards)
  · cases tells with
    | nobody => exact heat_of_head agenda rfl
    | one reads => exact heat_of_head agenda reads

theorem lessens_unit {executor clock ran : Nat} {job : Job} {waiting : List Task}
    (sound : machine.engine.store.Sound)
    (ordered : List.IsChain Activity.Before (.drain ran none :: machine.agenda))
    (queue : machine.engine.queue = .unit executor job clock :: waiting) :
    Lessens (.drain ran none) machine (machine.drain ran none) := by
  let begun : Engine := { machine.engine with queue := waiting }
  rw [drain_unit queue]
  cases prepared : begun.unit? executor job with
  | none =>
      rw [runUnit_of_none (machine.become begun) prepared]
      have drains : ∀ activity ∈ [Activity.drain (ran + 1) none],
          activity.weight < (Task.unit executor job clock).weight :=
        List.forall_mem_singleton.mpr (lighter_of_rank
          (Nat.lt_of_lt_of_le (by decide : 0 < 9) (Task.le_rank _)) _ _)
      exact lessens_task queue (gains_of_store rfl rfl rfl drains) (Or.inl rfl)
        (ordered_drain ordered) (heat_of_head rfl rfl)
  | some unit =>
      rcases (begun.runUnit_eq unit clock).2 with ⟨monitor, now, worked⟩
      have left : ((begun.runUnit unit clock).2.release executor).queue = waiting := by
        rw [worked]
        rfl
      have store : ((begun.runUnit unit clock).2.release executor).store =
          (machine.engine.store.attempt unit).2 := by
        rw [worked]
        rfl
      cases outcome : (begun.runUnit unit clock).1 with
      | ok answer =>
          rw [runUnit_of_ok (machine.become begun) prepared outcome]
          exact lessens_told sound ordered queue prepared (told_succeed executor clock job answer)
            rfl left store
      | error failure =>
          rw [runUnit_of_error (machine.become begun) prepared outcome]
          exact lessens_told sound ordered queue prepared (told_fail executor clock job failure)
            rfl left store

/-- A routine queues others that are parts of it, and may drain the queue first. -/
theorem lessens_routine {ran : Nat} {routine : Routine} {waiting : List Task}
    (ordered : List.IsChain Activity.Before (.drain ran none :: machine.agenda))
    (queue : machine.engine.queue = .routine routine :: waiting) :
    Lessens (.drain ran none) machine (machine.drain ran none) := by
  let begun : Engine := { machine.engine with queue := waiting }
  let queued : Engine := routine.followers.foldl
    (fun engine follower => engine.enqueue (.routine follower)) begun
  let inner : List Activity := if routine.drains then [.drain 0 none, .noteDrained] else []
  have ends : machine.drain ran none =
      (((machine.become begun).note (.ran routine.label)).become queued).next
        (inner ++ [.drain (ran + 1) routine.failure?]) := by
    simp only [drain, queue]
    rfl
  rw [ends]
  have onwards : List.IsChain Activity.Before
      (.drain (ran + 1) routine.failure? :: machine.agenda) := ordered_drain ordered
  have light {rank : Nat} (below : rank < 16) (size : Nat) :
      (toLex (rank, size) : Weight) < (Task.routine routine).weight :=
    lighter_of_rank below _ _
  have activities : ∀ activity ∈ inner ++ [.drain (ran + 1) routine.failure?],
      activity.weight < (Task.routine routine).weight := by
    rw [List.forall_mem_append, List.forall_mem_singleton]
    constructor
    · intro activity member
      dsimp only [inner] at member
      split at member
      · rcases List.mem_pair.mp member with rfl | rfl <;> exact light (by decide : 0 < 16) _
      · contradiction
    · cases routine.failure? with
      | none => exact light (by decide : 0 < 16) _
      | some failure => exact light (by decide : 5 < 16) _
  have followers : ∀ task ∈ routine.followers.map Task.routine,
      task.weight < (Task.routine routine).weight := by
    rw [List.forall_mem_map]
    exact fun follower member => lighter_of_size 16 (routine.sizeOf_follower member)
  have store : queued.store = machine.engine.store := begun.store_foldl_enqueue routine.followers
  refine lessens_task queue
    (gains_of_rows rfl (begun.queue_foldl_enqueue routine.followers)
      (congrArg Store.outbox store) activities followers ?_) (Or.inl rfl) ?_ ?_
  · exact congrArg (fun store : Store => store.tables.recordCount) store
  · show List.IsChain Activity.Before (inner ++ [.drain (ran + 1) routine.failure?] ++ machine.agenda)
    dsimp only [inner]
    split
    · exact .cons_cons trivial (.cons_cons trivial onwards)
    · exact onwards
  · dsimp only [inner]
    split
    · exact heat_of_head rfl rfl
    · exact heat_of_head rfl rfl

theorem lessens_drain {ran : Nat} {failure? : Option Error} (sound : machine.engine.store.Sound)
    (ordered : List.IsChain Activity.Before (.drain ran failure? :: machine.agenda)) :
    Lessens (.drain ran failure?) machine (machine.drain ran failure?) := by
  cases failure? with
  | some failure => exact lessens_drain_failed ordered
  | none =>
      cases queue : machine.engine.queue with
      | nil =>
          have ended : machine.drain ran none = machine.say (.drained (.ok ran)) := by
            simp only [drain, queue]
          rw [ended]
          apply lessens_say ordered
          apply heat_of_reply
          simp [say]
      | cons task waiting =>
          cases task with
          | unit executor job clock => exact lessens_unit sound ordered queue
          | routine routine => exact lessens_routine ordered queue

/-! ## Steps -/

/-- Whatever is done, less is outstanding afterwards, unless a command queues something. -/
theorem lessens_act (sound : machine.engine.store.Sound)
    (ordered : List.IsChain Activity.Before (activity :: machine.agenda))
    (nothing : ∀ command, activity = .perform command → machine.QueuesNothing command) :
    Lessens activity machine (machine.act activity) := by
  have among := machine.weight_mem activity
  cases activity with
  | perform command => exact ((nothing command rfl).yields sound).lessens rfl ordered among
  | note label => exact Yields.lessens (yields_nothing rfl rfl rfl) rfl ordered among
  | answer reply => exact lessens_answer ordered
  | call callback notice => exact (machine.yields_call callback notice).lessens rfl ordered among
  | flush => exact machine.yields_flush.lessens rfl ordered among
  | deliver count => exact lessens_deliver ordered
  | tell listener batch => exact (machine.yields_tell listener batch).lessens rfl ordered among
  | dispatch generation batch =>
      exact (machine.yields_dispatch generation batch).lessens rfl ordered among
  | visit generation table =>
      exact (machine.yields_visit generation table).lessens rfl ordered among
  | letGo held =>
      exact Yields.lessens (yields_nothing rfl (machine.engine.queue_letGo held)
        (machine.engine.store_letGo held)) rfl ordered among
  | alert watcher table => exact (machine.yields_alert watcher table).lessens rfl ordered among
  | drain ran failure? => exact lessens_drain sound ordered
  | noteDrained => exact Yields.lessens (yields_nothing rfl rfl rfl) rfl ordered among
  | afterDrain => exact lessens_afterDrain ordered
  | resolve id => exact lessens_resolve ordered
  | recheck id => exact lessens_recheck ordered
  | settle id outcome => exact Yields.lessens (yields_nothing rfl rfl rfl) rfl ordered among
  | refresh id result => exact (machine.yields_refresh id result).lessens rfl ordered among
  | serve id => exact (machine.yields_serve id).lessens rfl ordered among
  | refill id records => exact (machine.yields_refill id records).lessens rfl ordered among
  | serveItem id item callback =>
      exact (machine.yields_serveItem id item callback).lessens rfl ordered among
  | spread id => exact (machine.yields_spread id).lessens rfl ordered among

end Machine

end LiveTable
