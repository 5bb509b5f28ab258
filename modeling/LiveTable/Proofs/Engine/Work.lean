import LiveTable.Proofs.Engine.Ledger
import LiveTable.Proofs.Engine.Quiet
import Mathlib.Data.List.Chain

/-!
# Work

Every activity has a level, and so has every task.  What an activity leads to has a lower
level than the activity itself, apart from what its tasks and batches lead to.

`Machine.Works` is what most activities of a peaceful engine come to: the engine keeps
what is asked of it, and activities of lower levels come in front of the agenda.
-/

set_option autoImplicit false

namespace LiveTable

/-! ## Levels -/

/-- The level of an activity: whatever it leads to by itself has a lower one. -/
def Activity.level : Activity → Nat
  | .note _ | .answer _ | .letGo _ | .noteDrained | .recheck _ | .settle _ _ => 0
  | .drain _ none => 0
  | .deliver _ => 1
  | .flush => 2
  | .afterDrain => 3
  | .resolve _ => 4
  | .perform _ | .drain _ (some _) => 5
  | .call _ _ => 6
  | .serve _ | .serveItem _ _ _ | .spread _ => 7
  | .refresh _ _ | .refill _ _ => 8
  | .alert _ _ => 10
  | .visit _ _ => 11
  | .dispatch _ _ => 12
  | .tell _ _ => 13

/-- The level of a batch in the outbox. -/
def batchLevel : Nat :=
  14

/-- The level of a task: that of a request is above what its transaction commits. -/
def Task.level : Task → Nat
  | .unit _ .binding _ | .unit _ .cache _ => 9
  | _ => 15

theorem Task.level_of_isOfObject {task : Task} (object : task.isOfObject) : task.level = 9 := by
  cases task with
  | unit executor job clock => cases job <;> first | rfl | contradiction
  | routine routine => contradiction

/-! ## What comes after what -/

/-- Whether an activity gives the reply that a drain ended well. -/
def Activity.isFinal : Activity → Bool
  | .answer (.drained (.ok _)) => true
  | _ => false

/-- Whether an activity may come after any other. -/
def Activity.isPlain : Activity → Bool
  | .afterDrain | .recheck _ | .settle _ _ => false
  | _ => true

/-- Whether an activity reads what a drain came to. -/
def Activity.reads : Activity → Bool
  | .afterDrain | .recheck _ => true
  | _ => false

/-- An activity may come directly before another: what reads the end of a drain follows it. -/
def Activity.Before (former : Activity) : Activity → Prop
  | .afterDrain => ∃ ran failure?, former = .drain ran failure?
  | .recheck _ => former = .afterDrain ∨ former.isFinal
  | .settle _ _ => False
  | _ => True

/-- Whether an activity comes before none that reads the end of a drain. -/
def Activity.isFree : Activity → Bool
  | .drain _ _ | .afterDrain | .answer (.drained (.ok _)) => false
  | _ => true

theorem Activity.before_of_isPlain {former later : Activity} (plain : later.isPlain) :
    former.Before later := by
  cases later <;> trivial

theorem Activity.isPlain_of_before {former later : Activity} (free : former.isFree)
    (before : former.Before later) : later.isPlain := by
  cases later with
  | afterDrain =>
      rcases before with ⟨ran, failure?, rfl⟩
      contradiction
  | recheck id =>
      rcases before with rfl | final
      · contradiction
      · cases former with
        | answer reply =>
            cases reply with
            | drained outcome => cases outcome <;> contradiction
            | _ => contradiction
        | _ => contradiction
  | settle id outcome => exact before.elim
  | _ => rfl

/-- Activities in an order in which they may follow any activity. -/
def Loose (activities : List Activity) : Prop :=
  ∀ former, List.IsChain Activity.Before (former :: activities)

theorem loose_nil : Loose [] :=
  fun former => .singleton former

theorem loose_cons {activity : Activity} {rest : List Activity} (plain : activity.isPlain)
    (ordered : List.IsChain Activity.Before (activity :: rest)) : Loose (activity :: rest) :=
  fun _ => .cons_cons (Activity.before_of_isPlain plain) ordered

/-- What may follow an activity that is no end of a drain may follow any. -/
theorem loose_of_isFree {former : Activity} {rest : List Activity} (free : former.isFree)
    (ordered : List.IsChain Activity.Before (former :: rest)) : Loose rest := by
  cases rest with
  | nil => exact loose_nil
  | cons activity rest =>
      rw [List.isChain_cons_cons] at ordered
      exact loose_cons (Activity.isPlain_of_before free ordered.1) ordered.2

theorem loose_append {new rest : List Activity} (early : Loose new) (late : Loose rest) :
    Loose (new ++ rest) := by
  intro former
  rw [← List.cons_append, List.isChain_append]
  refine ⟨early former, (late former).tail, ?_⟩
  intro last _ first head
  cases rest with
  | nil => contradiction
  | cons activity rest =>
      rcases Option.some.inj head with rfl
      exact (List.isChain_cons_cons.mp (late last)).1

theorem loose_of_isPlain {activities : List Activity}
    (plain : ∀ activity ∈ activities, activity.isPlain) : Loose activities := by
  induction activities with
  | nil => exact loose_nil
  | cons activity rest ih =>
      rw [List.forall_mem_cons] at plain
      exact loose_cons plain.1 (ih plain.2 activity)

theorem Loose.head_reads {agenda : List Activity} (loose : Loose agenda) :
    agenda.head?.any Activity.reads = false := by
  cases agenda with
  | nil => rfl
  | cons activity rest =>
      have ordered := loose .flush
      rw [List.isChain_cons_cons] at ordered
      have plain := Activity.isPlain_of_before rfl ordered.1
      cases activity <;> first | rfl | contradiction

/-! ## Calm engines -/

/-- An activity in which nothing but quiet commands and callbacks occur. -/
def Activity.Quiet (closable : Bool) : Activity → Prop
  | .perform command => command.Quiet closable
  | .call target _ => target.Quiet closable
  | .tell listener _ => listener.Quiet closable
  | .alert watcher _ => watcher.Quiet closable
  | .serveItem _ _ target => target.Quiet closable
  | _ => True

/-- Whether a task is one that calm commands queue. -/
def Task.isCalm : Task → Bool
  | .unit _ .binding _ | .unit _ .cache _ => true
  | .unit _ (.request asked) _ => asked.request.isOneShot
  | _ => false

namespace Engine

/-- The requests that wait, oldest first. -/
def waiting (engine : Engine) : List (Nat × WorkUnit) :=
  engine.queue.filterMap Task.asked?

/-- A peaceful engine whose store is in order and whose names stand for requests of their own. -/
structure Calm (closable : Bool) (engine : Engine) : Prop where
  peaceful : engine.Peaceful closable
  sound : engine.store.Sound
  created : engine.store.isOpen → engine.store.isCreated
  unblocked : closable → engine.store.blocked? = none
  tasks : ∀ task ∈ engine.queue, task.isCalm
  named {name : String} {id : Nat} (stands : (engine.handles name).request? = some id) :
    id < engine.nextId
  owned {name other : String} {id : Nat} (stands : (engine.handles name).request? = some id)
    (standsToo : (engine.handles other).request? = some id) : name = other

end Engine

/-! ## New activities -/

/-- The request whose outcome an activity waits for. -/
def Activity.sought? : Activity → Option Nat
  | .resolve id | .recheck id => some id
  | _ => none

/-- Activities that may be put in front of any agenda, with levels below a limit. -/
structure Fine (closable : Bool) (limit : Nat) (activities : List Activity) : Prop where
  quiet : ∀ activity ∈ activities, activity.Quiet closable
  lower : ∀ activity ∈ activities, activity.level < limit
  notFinal : ∀ activity ∈ activities, activity.isFinal = false
  unsought : ∀ activity ∈ activities, activity.sought? = none
  loose : Loose activities

/-- An activity that may come anywhere, with a level below a limit. -/
structure Activity.Fits (closable : Bool) (limit : Nat) (activity : Activity) : Prop where
  quiet : activity.Quiet closable
  lower : activity.level < limit
  notFinal : activity.isFinal = false
  unsought : activity.sought? = none
  plain : activity.isPlain

variable {closable : Bool} {limit : Nat}

theorem fine_of_fits {activities : List Activity}
    (fits : ∀ activity ∈ activities, activity.Fits closable limit) :
    Fine closable limit activities where
  quiet activity member := (fits activity member).quiet
  lower activity member := (fits activity member).lower
  notFinal activity member := (fits activity member).notFinal
  unsought activity member := (fits activity member).unsought
  loose := loose_of_isPlain fun activity member => (fits activity member).plain

theorem fine_nil : Fine closable limit [] :=
  fine_of_fits (List.forall_mem_nil _)

theorem fine_singleton {activity : Activity} (fits : activity.Fits closable limit) :
    Fine closable limit [activity] :=
  fine_of_fits fun _ member => List.mem_singleton.mp member ▸ fits

theorem fine_append {early late : List Activity}
    (fineEarly : Fine closable limit early) (fineLate : Fine closable limit late) :
    Fine closable limit (early ++ late) where
  quiet := List.forall_mem_append.mpr ⟨fineEarly.quiet, fineLate.quiet⟩
  lower := List.forall_mem_append.mpr ⟨fineEarly.lower, fineLate.lower⟩
  notFinal := List.forall_mem_append.mpr ⟨fineEarly.notFinal, fineLate.notFinal⟩
  unsought := List.forall_mem_append.mpr ⟨fineEarly.unsought, fineLate.unsought⟩
  loose := loose_append fineEarly.loose fineLate.loose

theorem fine_letGo (held : Held) (some : 0 < limit) : Fine closable limit [.letGo held] :=
  fine_singleton ⟨trivial, some, rfl, rfl, rfl⟩

theorem fits_calls {callbacks : List Callback}
    (quiet : ∀ callback ∈ callbacks, callback.Quiet closable)
    (room : 6 < limit) (notice : Notice) :
    ∀ activity ∈ callbacks.map (Activity.call · notice), activity.Fits closable limit := by
  intro activity member
  rcases List.mem_map.mp member with ⟨callback, among, rfl⟩
  exact ⟨quiet callback among, room, rfl, rfl, rfl⟩

theorem fine_running (room : 3 < limit) : Fine closable limit Machine.running where
  quiet := by simp [Machine.running, Activity.Quiet]
  lower := by
    simp only [Machine.running, List.forall_mem_cons, List.not_mem_nil, false_implies,
      implies_true, and_true]
    exact ⟨Nat.zero_lt_of_lt room, room⟩
  notFinal := by simp [Machine.running, Activity.isFinal]
  unsought := by simp [Machine.running, Activity.sought?]
  loose := loose_cons rfl (.cons_cons ⟨0, none, rfl⟩ (.singleton _))

/-! ## Working -/

namespace Machine

/--
A machine works: its engine keeps what is asked of it, and fine activities come in front
of the agenda.  Units of bindings and caches are queued only where the limit is above theirs.
-/
inductive Works (closable : Bool) (limit : Nat) (before after : Machine) : Prop where
  | intro {added : List Task} {new : List Activity}
      (keeps : Engine.Keeps closable added before.engine after.engine)
      (room : added ≠ [] → 9 < limit)
      (agenda : after.agenda = new ++ before.agenda)
      (fine : Fine closable limit new) :
      Works closable limit before after

variable {machine : Machine}

theorem works_of_engine {before after : Machine}
    (keeps : Engine.Keeps closable [] before.engine after.engine)
    (agenda : after.agenda = before.agenda) : Works closable limit before after := by
  refine .intro keeps (absurd rfl ·) ?_ fine_nil
  exact agenda

theorem works_of_requests {before after : Machine} (room : 9 < limit)
    (requests : Engine.Requests closable before.engine after.engine)
    (agenda : after.agenda = before.agenda) : Works closable limit before after := by
  rcases requests with ⟨added, keeps⟩
  refine .intro keeps (fun _ => room) ?_ fine_nil
  exact agenda

theorem works_say (machine : Machine) (reply : Reply) :
    Works closable limit machine (machine.say reply) :=
  works_of_engine (Engine.keeps_refl _) rfl

theorem works_conclude {outcome : Reply × Engine}
    (keeps : Engine.Keeps closable [] machine.engine outcome.2) :
    Works closable limit machine (machine.conclude outcome) :=
  works_of_engine keeps rfl

theorem works_next {new : List Activity} (fine : Fine closable limit new) :
    Works closable limit machine (machine.next new) :=
  .intro (Engine.keeps_refl _) (absurd rfl ·) rfl fine

theorem works_become_next {engine : Engine} (keeps : Engine.Keeps closable [] machine.engine engine)
    {new : List Activity} (fine : Fine closable limit new) :
    Works closable limit machine ((machine.become engine).next new) :=
  .intro keeps (absurd rfl ·) rfl fine

theorem works_holding {engine : Engine} (held : Held)
    (requests : Engine.Requests closable machine.engine engine) (room : 9 < limit)
    {new : List Activity} (fits : ∀ activity ∈ new, activity.Fits closable limit) :
    Works closable limit machine ((machine.become engine).holding held new) := by
  rcases requests with ⟨added, keeps⟩
  refine .intro (keeps.trans (Engine.keeps_hold engine held)) (fun _ => room) rfl ?_
  exact fine_append (fine_of_fits fits) (fine_letGo held (Nat.zero_lt_of_lt room))

theorem works_hold (held : Held) {new : List Activity}
    (fits : ∀ activity ∈ new, activity.Fits closable limit) (some : 0 < limit) :
    Works closable limit machine (machine.holding held new) := by
  refine .intro (Engine.keeps_hold machine.engine held) (absurd rfl ·) rfl ?_
  exact fine_append (fine_of_fits fits) (fine_letGo held some)

/-! ## Commands -/

theorem works_performFeed {command : FeedCommand Command}
    (quiet : (Command.feed command).Calm closable) (room : 2 < limit) :
    Works closable limit machine (machine.performFeed command) := by
  cases command with
  | listen reaction =>
      apply works_conclude
      refine (Engine.keeps_register machine.engine reaction).trans ?_
      refine .of_same (fun peaceful => ?_) rfl rfl rfl rfl (Nat.le_refl _)
      have called : Listener.Quiet closable (.callback (machine.engine.register reaction).1) :=
        quiet.reacts reaction rfl
      exact peaceful.withListener called
  | unlisten id =>
      apply works_conclude
      exact .of_same (·.withoutListener id) rfl rfl rfl rfl (Nat.le_refl _)
  | publish batch => exact absurd quiet.calm Bool.false_ne_true
  | flush =>
      refine works_hold _ ?_ (Nat.zero_lt_of_lt room)
      intro activity member
      rw [List.mem_singleton.mp member]
      exact ⟨trivial, room, rfl, rfl, rfl⟩

theorem works_performRegistry {command : RegistryCommand Command}
    (calm : (Command.registry command).Calm closable)
    (wide : (Command.registry command).isQuiet closable = false → 12 < limit) :
    Works closable limit machine (machine.performRegistry command) := by
  cases command with
  | watch id table reaction =>
      apply works_conclude
      refine (Engine.keeps_register machine.engine reaction).trans ?_
      have called : Watcher.Quiet closable (.callback (machine.engine.register reaction).1) :=
        calm.reacts reaction rfl
      exact Engine.keeps_watch _ id table called
  | leave id => exact works_conclude (Engine.keeps_leave machine.engine id)
  | dispatch batch =>
      have some : 0 < limit := Nat.zero_lt_of_lt (wide rfl)
      refine works_hold _ ?_ some
      simp only [List.forall_mem_cons, List.not_mem_nil, false_implies, implies_true, and_true]
      exact ⟨⟨trivial, wide rfl, rfl, rfl, rfl⟩, ⟨trivial, some, rfl, rfl, rfl⟩⟩
  | clear =>
      apply works_conclude
      refine .of_same (fun peaceful => ?_) rfl rfl rfl rfl (Nat.le_refl _)
      exact { peaceful with registry := Engine.quiet_empty }
  | giveUp => exact works_conclude (Engine.keeps_renewRegistry machine.engine)
  | renew => exact works_conclude (Engine.keeps_renewRegistry machine.engine)
  | number => exact works_conclude (Engine.keeps_allocate machine.engine)

theorem works_performClock (machine : Machine) (command : ClockCommand) :
    Works closable limit machine (machine.performClock command) := by
  cases command <;>
    exact works_conclude
      (.of_same (fun peaceful => { peaceful with }) rfl rfl rfl rfl (Nat.le_refl _))

theorem works_performStore (calm : machine.engine.Calm closable) {command : StoreCommand}
    (quiet : (Command.store command).isQuiet closable) :
    Works closable limit machine (machine.performStore command) := by
  cases command with
  | ensureOpen =>
      rw [performStore]
      split
      · next store opening =>
          apply works_conclude
          intro peaceful
          exact ⟨{ peaceful with }, .of_kept (.of_open? opening) rfl rfl rfl (Nat.le_refl _)⟩
      · exact works_say machine _
  | close =>
      apply works_conclude
      intro peaceful
      have kept := Store.Kept.of_close (calm.unblocked quiet) calm.created
      exact ⟨{ peaceful with }, .of_kept kept rfl rfl rfl (Nat.le_refl _)⟩
  | block reason? => exact absurd quiet Bool.false_ne_true
  | transact mode table steps => exact absurd quiet Bool.false_ne_true

theorem works_performExecutor {command : ExecutorCommand Command}
    (calm : (Command.executor command).Calm closable) :
    Works closable limit machine (machine.performExecutor command) := by
  cases command with
  | create name =>
      apply works_conclude
      show Engine.Keeps closable [] machine.engine
        (machine.engine.allocate.2.rename name fun handles =>
          { handles with executor? := some machine.engine.nextId })
      refine (Engine.keeps_allocate machine.engine).trans (Engine.keeps_rename _ name _ ?_)
      exact fun _ _ stands => stands
  | run => exact absurd calm.calm Bool.false_ne_true

theorem works_performWatch {command : WatchCommand Command}
    (calm : (Command.watch command).Calm closable) :
    Works closable limit machine (machine.performWatch command) := by
  cases command with
  | create name table reaction =>
      have called : Watcher.Quiet closable (.callback (machine.engine.register reaction).1) :=
        calm.reacts reaction rfl
      have watched := (Engine.keeps_register machine.engine reaction).trans
        (Engine.keeps_watch _ (machine.engine.register reaction).1.id table called)
      apply works_conclude
      refine Engine.Keeps.trans (watched.trans (Engine.keeps_rename _ name _ ?_))
        (Engine.keeps_elim _ _ Engine.keeps_leave)
      exact fun _ _ stands => stands
  | stop name =>
      rw [performWatch]
      split
      · exact works_say machine _
      · exact works_conclude (Engine.keeps_leave machine.engine _)

/-! ## Bindings and caches -/

theorem works_withBinding {name : String} {go : Nat → Binding → Machine}
    (works : ∀ id binding, machine.engine.bindings.get? id = some binding →
      Works closable limit machine (go id binding)) :
    Works closable limit machine (machine.withBinding name go) := by
  rw [withBinding]
  split
  · next id binding found =>
      apply works
      exact Engine.held_of_binding? found
  · exact works_say machine _

theorem works_withCache {name : String} {go : Nat → ItemCache → Machine}
    (works : ∀ id cache, machine.engine.caches.get? id = some cache →
      Works closable limit machine (go id cache)) :
    Works closable limit machine (machine.withCache name go) := by
  rw [withCache]
  split
  · next id cache found =>
      apply works
      exact Engine.held_of_cache? found
  · exact works_say machine _

/-- Subscribers stay quiet when one that is quiet is added. -/
theorem quiet_add {subscribers : Subscribers Callback} {target : Callback}
    (quiet : ∀ callback ∈ subscribers.all, callback.Quiet closable)
    (added : target.Quiet closable) :
    ∀ callback ∈ (subscribers.add target).2.all, callback.Quiet closable := by
  intro callback member
  rcases Subscribers.mem_all_add.mp member with former | rfl
  · exact quiet callback former
  · exact added

theorem quiet_remove {subscribers : Subscribers Callback}
    (quiet : ∀ callback ∈ subscribers.all, callback.Quiet closable) (number : Nat) :
    ∀ callback ∈ (subscribers.remove number).all, callback.Quiet closable :=
  fun callback member => quiet callback (Subscribers.of_mem_all_remove member)

/-- A command on bindings that gives none a descriptor that erases. -/
theorem works_performIssued {command : BindingCommand Command}
    (calm : (Command.binding command).Calm closable)
    (wide : (Command.binding command).isQuiet closable = false → 12 < limit) :
    Works closable limit machine (machine.performIssued command) := by
  have high (loud : (Command.binding command).isQuiet closable = false) : 9 < limit :=
    Nat.lt_of_le_of_lt (by decide) (wide loud)
  cases command with
  | create name table descriptor =>
      have created : Engine.Requests closable machine.engine _ :=
        Engine.requests_createBinding machine.engine table calm.calm
      have renamed := created.trans (Engine.keeps_rename _ name
        (fun handles => { handles with binding? := some machine.engine.nextId })
        fun _ _ stands => stands).requests
      have discarded := renamed.trans
        (Engine.keeps_elim _ (machine.engine.handles name).binding? Engine.keeps_discard).requests
      exact works_of_requests (high rfl) discarded rfl
  | setDescriptor name descriptor =>
      apply works_withBinding
      intro id binding _
      exact works_of_requests (high rfl)
        (Engine.requests_setDescriptor _ id binding fun _ => calm.calm) rfl
  | setTable name table =>
      apply works_withBinding
      intro id binding _
      exact works_of_requests (high rfl) (Engine.requests_setTable _ id binding table) rfl
  | addClause name clause =>
      apply works_withBinding
      intro id binding held
      refine works_of_requests (high rfl) (Engine.requests_setDescriptor _ id binding ?_) rfl
      exact fun peaceful => (peaceful.bindings held).1.reads
  | refresh name =>
      apply works_withBinding
      intro id _ _
      exact works_of_requests (high rfl) (Engine.requests_requestBinding _ id) rfl
  | fetch name table? descriptor? reaction =>
      apply works_withBinding
      intro id binding held
      have called : (machine.engine.register reaction).1.Quiet closable := calm.reacts reaction rfl
      have registered : Engine.Requests closable machine.engine (machine.engine.register reaction).2 :=
        (Engine.keeps_register machine.engine reaction).requests
      have reads : descriptor?.all Descriptor.reads := calm.calm
      have fetched := registered.trans (Engine.requests_fetch _ id binding table? reads called)
      apply works_holding (.object id) fetched (high rfl)
      have six : 6 < limit := Nat.lt_of_le_of_lt (by decide) (wide rfl)
      intro activity member
      rcases List.mem_append.mp member with call | answer
      · rcases List.mem_map.mp call with ⟨result, _, rfl⟩
        exact ⟨called, six, rfl, rfl, rfl⟩
      · rw [List.mem_singleton.mp answer]
        exact ⟨trivial, Nat.zero_lt_of_lt six, rfl, rfl, rfl⟩
  | subscribe name reaction =>
      apply works_withBinding
      intro id binding held
      have called : (machine.engine.register reaction).1.Quiet closable := calm.reacts reaction rfl
      apply works_conclude
      refine (Engine.keeps_register machine.engine reaction).trans
        (Engine.keeps_modifyBinding _ id ?_)
      intro peaceful former before
      exact ⟨before.reads, quiet_add (peaceful.bindings held).1.consumers called, before.waiting⟩
  | unsubscribe name number =>
      apply works_withBinding
      intro id binding _
      apply works_conclude
      apply Engine.keeps_modifyBinding
      intro _ former before
      exact ⟨before.reads, quiet_remove before.consumers number, before.waiting⟩
  | close name =>
      apply works_withBinding
      intro id _ _
      exact works_conclude (Engine.keeps_closeBinding machine.engine id)

theorem works_performBinding {command : BindingCommand Command}
    (calm : (Command.binding command).Calm closable)
    (wide : (Command.binding command).isQuiet closable = false → 12 < limit) :
    Works closable limit machine (machine.performBinding command) := by
  let issued := command.issued machine.engine.nextId
  let allocated := machine.become machine.engine.allocate.2
  have sameQuiet :
      (Command.binding issued).isQuiet closable = (Command.binding command).isQuiet closable := by
    cases command <;> rfl
  have calmIssued : (Command.binding issued).Calm closable := by
    have same : issued.reads = command.reads ∧ issued.reaction? = command.reaction? := by
      cases command with
      | fetch name table? descriptor? reaction => cases descriptor? <;> exact ⟨rfl, rfl⟩
      | _ => exact ⟨rfl, rfl⟩
    refine ⟨?_, ?_⟩
    · show issued.reads
      rw [same.1]
      exact calm.calm
    · intro reaction registers
      apply calm.reacts reaction
      show command.reaction? = some reaction
      rw [← same.2]
      exact registers
  have works : Works closable limit allocated (allocated.performIssued issued) :=
    works_performIssued calmIssued (sameQuiet ▸ wide)
  rcases works with ⟨keeps, room, agenda, fine⟩
  exact .intro ((Engine.keeps_allocate machine.engine).trans keeps) room agenda fine

theorem works_performCache {command : CacheCommand Command}
    (calm : (Command.cache command).Calm closable)
    (wide : (Command.cache command).isQuiet closable = false → 12 < limit) :
    Works closable limit machine (machine.performCache command) := by
  have high (loud : (Command.cache command).isQuiet closable = false) : 9 < limit :=
    Nat.lt_of_le_of_lt (by decide) (wide loud)
  cases command with
  | create name table idField? =>
      have created : Engine.Keeps closable [] machine.engine _ :=
        Engine.keeps_createCache machine.engine table
          (idField?.getD machine.engine.config.idField)
      have renamed := created.trans (Engine.keeps_rename _ name
        (fun handles => { handles with cache? := some machine.engine.nextId })
        fun _ _ stands => stands)
      exact works_conclude (renamed.trans
        (Engine.keeps_elim _ (machine.engine.handles name).cache? Engine.keeps_discard))
  | track name ids =>
      apply works_withCache
      intro id _ _
      apply works_conclude
      apply Engine.keeps_modifyCache
      exact fun _ _ before => ⟨before.waiting, before.consumers⟩
  | request name item reaction? =>
      apply works_withCache
      intro id cache held
      have called : ∀ callback ∈ (machine.engine.register? reaction?).1, callback.Quiet closable := by
        intro callback registered
        cases reaction? with
        | none => contradiction
        | some reaction =>
            rcases Option.some.inj registered with rfl
            exact calm.reacts reaction rfl
      have registered :
          Engine.Requests closable machine.engine (machine.engine.register? reaction?).2 :=
        (Engine.keeps_register? machine.engine reaction?).requests
      dsimp only
      split
      · apply works_holding (.object id) registered (high rfl)
        have six : 6 < limit := Nat.lt_of_le_of_lt (by decide) (wide rfl)
        intro activity member
        rcases List.mem_append.mp member with call | answer
        · rcases List.mem_map.mp call with ⟨callback, among, rfl⟩
          exact ⟨called callback (Option.mem_toList.mp among), six, rfl, rfl, rfl⟩
        · rw [List.mem_singleton.mp answer]
          exact ⟨trivial, Nat.zero_lt_of_lt six, rfl, rfl, rfl⟩
      · exact works_of_requests (high rfl)
          (registered.trans (Engine.requests_trackItem _ id item called)) rfl
  | fetch name =>
      apply works_withCache
      intro id _ _
      exact works_of_requests (high rfl) (Engine.requests_requestCache _ id) rfl
  | subscribe name reaction =>
      apply works_withCache
      intro id cache held
      have called : (machine.engine.register reaction).1.Quiet closable := calm.reacts reaction rfl
      apply works_conclude
      refine (Engine.keeps_register machine.engine reaction).trans (Engine.keeps_modifyCache _ id ?_)
      intro peaceful former before
      exact ⟨before.waiting, quiet_add (peaceful.caches held).1.consumers called⟩
  | unsubscribe name number =>
      apply works_withCache
      intro id _ _
      apply works_conclude
      apply Engine.keeps_modifyCache
      intro _ former before
      exact ⟨before.waiting, quiet_remove before.consumers number⟩
  | close name =>
      apply works_withCache
      intro id _ _
      exact works_conclude (Engine.keeps_closeCache machine.engine id)

/-! ## Commands -/

/-- A calm command that is no request makes the machine work. -/
theorem works_perform (engine : machine.engine.Calm closable) {command : Command}
    (calm : command.Calm closable) (room : 4 < limit)
    (wide : command.isQuiet closable = false → 12 < limit)
    (other : ∀ asked, command ≠ .request asked) :
    Works closable limit machine (machine.perform command) := by
  have low : 3 < limit := Nat.lt_of_succ_lt room
  cases command with
  | inquire inquiry => exact works_say machine _
  | feed command => exact works_performFeed calm (Nat.lt_of_succ_lt low)
  | registry command => exact works_performRegistry calm wide
  | queue command =>
      cases command with
      | push routine => exact absurd calm.calm Bool.false_ne_true
      | drain =>
          exact works_next
            (fine_singleton ⟨trivial, Nat.zero_lt_of_lt room, rfl, rfl, rfl⟩)
  | store command => exact works_performStore engine calm.calm
  | clock command => exact works_performClock machine command
  | request asked => exact absurd rfl (other asked)
  | executor command => exact works_performExecutor calm
  | watch command => exact works_performWatch calm
  | binding command => exact works_performBinding calm wide
  | cache command => exact works_performCache calm wide
  | run => exact works_next (fine_running low)
  | drop name => exact works_conclude (Engine.keeps_drop machine.engine name)

/-! ## Other activities -/

theorem works_call {callback : Callback} (quiet : callback.Quiet closable) (notice : Notice) :
    Works closable 6 machine (machine.call callback notice) := by
  rw [call]
  dsimp only
  split
  · refine .intro (.of_same (fun peaceful => { peaceful with }) rfl rfl rfl rfl (Nat.le_refl _))
      (absurd rfl ·) rfl (fine_of_fits ?_)
    intro activity member
    rcases List.mem_flatMap.mp member with ⟨command, among, inner⟩
    simp only [List.mem_cons, List.not_mem_nil, or_false] at inner
    rcases inner with rfl | rfl
    · exact ⟨quiet command among, Nat.lt_succ_self 5, rfl, rfl, rfl⟩
    · exact ⟨trivial, Nat.zero_lt_succ 5, rfl, rfl, rfl⟩
  · exact works_of_engine (Engine.keeps_refl _) rfl

theorem works_flush (machine : Machine) : Works closable 2 machine machine.flush := by
  have fits : (Activity.deliver 0).Fits closable 2 :=
    ⟨trivial, Nat.lt_succ_self 1, rfl, rfl, rfl⟩
  rw [flush]
  split
  · exact works_say machine _
  · refine works_become_next ?_ (fine_singleton fits)
    exact .of_same (fun peaceful => { peaceful with }) rfl rfl rfl rfl (Nat.le_refl _)

theorem works_deliver_nothing (machine : Machine) (outbox : machine.engine.store.outbox = [])
    (delivered : Nat) : Works closable 1 machine (machine.deliver delivered) := by
  rw [deliver]
  simp only [outbox]
  exact works_conclude
    (.of_same (fun peaceful => { peaceful with }) rfl rfl rfl rfl (Nat.le_refl _))

theorem works_tell {listener : Listener} (quiet : listener.Quiet closable) (batch : List Change) :
    Works closable 13 machine (machine.tell listener batch) := by
  cases listener with
  | registry generation =>
      rw [tell]
      split
      · refine works_hold _ ?_ (by decide)
        intro activity member
        rw [List.mem_singleton.mp member]
        exact ⟨trivial, Nat.lt_succ_self 12, rfl, rfl, rfl⟩
      · exact works_of_engine (Engine.keeps_refl _) rfl
  | callback target =>
      exact works_next (fine_singleton ⟨quiet, (by decide : 6 < 13), rfl, rfl, rfl⟩)

theorem works_dispatch (machine : Machine) (generation : Nat) (batch : List Change) :
    Works closable 12 machine (machine.dispatch generation batch) := by
  apply works_next
  apply fine_of_fits
  intro activity member
  rcases List.mem_map.mp member with ⟨table, _, rfl⟩
  exact ⟨trivial, Nat.lt_succ_self 11, rfl, rfl, rfl⟩

theorem quiet_registryOf? (peaceful : machine.engine.Peaceful closable) {generation : Nat}
    {registry : Registry Watcher} (found : machine.engine.registryOf? generation = some registry) :
    registry.Quiet closable := by
  rw [Engine.registryOf?] at found
  split at found
  · rcases Option.some.inj found with rfl
    exact peaceful.registry
  · rcases Option.map_eq_some_iff.mp found with ⟨former, held, rfl⟩
    exact peaceful.former held

theorem works_visit (peaceful : machine.engine.Peaceful closable) (generation : Nat)
    (table : String) : Works closable 11 machine (machine.visit generation table) := by
  rw [visit]
  split
  · next registry found =>
      apply works_next
      apply fine_of_fits
      intro activity member
      rcases List.mem_map.mp member with ⟨watcher, watches, rfl⟩
      rcases List.mem_map.mp watches with ⟨entry, listed, rfl⟩
      exact ⟨quiet_registryOf? peaceful found listed, Nat.lt_succ_self 10, rfl, rfl, rfl⟩
  · exact works_of_engine (Engine.keeps_refl _) rfl

theorem works_alert {watcher : Watcher} (quiet : watcher.Quiet closable) (table : String) :
    Works closable 10 machine (machine.alert watcher table) := by
  cases watcher with
  | binding id => exact works_of_requests (by decide) (Engine.requests_requestBinding _ id) rfl
  | cache id => exact works_of_requests (by decide) (Engine.requests_requestCache _ id) rfl
  | callback target =>
      exact works_next (fine_singleton ⟨quiet, (by decide : 6 < 10), rfl, rfl, rfl⟩)

theorem works_refresh (peaceful : machine.engine.Peaceful closable) (id : Nat)
    (result : QueryResult) : Works closable 8 machine (machine.refresh id result) := by
  have served : (Activity.serve id).Fits closable 8 :=
    ⟨trivial, Nat.lt_succ_self 7, rfl, rfl, rfl⟩
  rw [refresh]
  split
  · exact works_of_engine (Engine.keeps_refl _) rfl
  · next binding held =>
      split
      · exact works_next (fine_singleton served)
      · apply works_become_next
        · apply Engine.keeps_modifyBinding
          exact fun _ _ before => ⟨before.reads, before.consumers, before.waiting⟩
        · apply fine_of_fits
          rw [List.forall_mem_append, List.forall_mem_singleton]
          exact ⟨fits_calls (peaceful.bindings held).1.consumers (by decide) _, served⟩

theorem works_serve (peaceful : machine.engine.Peaceful closable) (id : Nat) :
    Works closable 7 machine (machine.serve id) := by
  rw [serve]
  split
  · exact works_of_engine (Engine.keeps_refl _) rfl
  · next binding held =>
      apply works_become_next
      · apply Engine.keeps_modifyBinding
        exact fun _ _ before => ⟨before.reads, before.consumers, List.forall_mem_nil _⟩
      · exact fine_of_fits (fits_calls (peaceful.bindings held).1.waiting (by decide) _)

theorem works_refill (peaceful : machine.engine.Peaceful closable) (id : Nat)
    (records : List Record) : Works closable 8 machine (machine.refill id records) := by
  rw [refill]
  split
  · exact works_of_engine (Engine.keeps_refl _) rfl
  · next cache held =>
      apply works_become_next
      · apply Engine.keeps_modifyCache
        exact fun _ _ before => ⟨List.forall_mem_nil _, before.consumers⟩
      · apply fine_of_fits
        rw [List.forall_mem_append, List.forall_mem_singleton, List.forall_mem_map]
        refine ⟨fun waiting among => ?_, ⟨trivial, Nat.lt_succ_self 7, rfl, rfl, rfl⟩⟩
        exact ⟨(peaceful.caches held).1.waiting waiting among, Nat.lt_succ_self 7, rfl, rfl, rfl⟩

theorem works_serveItem {callback : Callback} (quiet : callback.Quiet closable) (id : Nat)
    (item : Value) : Works closable 7 machine (machine.serveItem id item callback) := by
  rw [serveItem]
  split
  · exact works_of_engine (Engine.keeps_refl _) rfl
  · exact works_next (fine_singleton ⟨quiet, Nat.lt_succ_self 6, rfl, rfl, rfl⟩)

theorem works_spread (peaceful : machine.engine.Peaceful closable) (id : Nat) :
    Works closable 7 machine (machine.spread id) := by
  rw [spread]
  split
  · exact works_of_engine (Engine.keeps_refl _) rfl
  · next cache held =>
      exact works_next
        (fine_of_fits (fits_calls (peaceful.caches held).1.consumers (by decide) _))

end Machine

end LiveTable
