import LiveTable.Proofs.Engine.ItemRequests
import LiveTable.Proofs.Engine.Rejecting
import LiveTable.Proofs.Engine.Renewals

/-!
# Closing is final

A binding or a cache that has been closed stays closed, and whatever could revive it asks first.
So no result reaches it, and what it holds stays as it was.  Its callbacks went with it; unless they
were about to be called just then, they are never called again.
-/

set_option autoImplicit false

namespace LiveTable

namespace Owner

/-- Whether an activity gives it a result. -/
def isGiven : Owner → Activity → Bool
  | .binding id, .refresh target _ => target == id
  | .cache id, .refill target _ => target == id
  | _, _ => false

/-- What it holds in an engine it holds in a later one. -/
def Keeps : Owner → Engine → Engine → Prop
  | .binding id, before, after =>
    after.valueOf? id = before.valueOf? id ∧ after.versionOf id = before.versionOf id
  | .cache id, before, after => after.itemsOf id = before.itemsOf id

theorem Keeps.refl (owner : Owner) (engine : Engine) : owner.Keeps engine engine := by
  cases owner with
  | binding id => exact ⟨rfl, rfl⟩
  | cache id => exact rfl

theorem Keeps.trans {owner : Owner} {first middle last : Engine}
    (early : owner.Keeps first middle) (late : owner.Keeps middle last) :
    owner.Keeps first last := by
  cases owner with
  | binding id => exact ⟨late.1.trans early.1, late.2.trans early.2⟩
  | cache id => exact Eq.trans late early

theorem renews_of_isGiven {owner : Owner} {activity : Activity}
    (given : owner.isGiven activity) : activity.renews := by
  cases owner <;> cases activity <;> first | rfl | contradiction

/-- A success is passed on to its owner. -/
theorem isGiven_told {owner : Owner} {success : Success} (given : owner.isGiven success.told) :
    success.owner = owner := by
  rcases success with ⟨target, unit, result⟩
  cases owner with
  | binding id =>
      cases target with
      | binding target => exact congrArg Owner.binding (beq_iff_eq.mp given)
      | cache target => contradiction
  | cache id =>
      cases target with
      | binding target => contradiction
      | cache target => exact congrArg Owner.cache (beq_iff_eq.mp given)

end Owner

theorem Command.of_watches? {command : Command} {id : Nat} (watches : command.watches? = some id) :
    ∃ table reaction, command = .registry (.watch id table reaction) := by
  cases command with
  | registry command =>
      cases command with
      | watch watched table reaction =>
          rcases Option.some.inj watches with rfl
          exact ⟨table, reaction, rfl⟩
      | _ => contradiction
  | _ => contradiction

/-! ## Going on -/

namespace Machine

variable {first machine after closed later : Machine} {past since : List Machine} {owner : Owner}

/-- A unit of what is closed does not succeed. -/
theorem hasClosed_of_success {success : Success} (succeeds : machine.success? = some success) :
    machine.engine.hasClosed success.owner = false := by
  refine Bool.eq_false_iff.mpr fun closed => ?_
  rcases unitRun_of_success succeeds with ⟨run, runs, _, _, own⟩
  have prepared := unit?_of_unitRun runs
  have none := Engine.unit?_of_closed closed
  rcases own with ⟨own, job⟩ | ⟨own, job⟩ <;>
    · rw [own] at none
      rw [job] at prepared
      exact absurd (none.symm.trans prepared) nofun

/-- An object is closed, and no result of it is about to be passed on. -/
structure Ended (owner : Owner) (machine : Machine) : Prop where
  closed : machine.engine.hasClosed owner
  calm (activity : Activity) :
    machine.agenda.head? = some activity → owner.isGiven activity = false

/-- What is closed after a turn has come to its end. -/
theorem ended_of_turn (regular : machine.Regular) (turn : machine.Turn after)
    (closed : after.engine.hasClosed owner) : after.Ended owner where
  closed := closed
  calm activity head := by
    refine Bool.eq_false_iff.mpr fun given => ?_
    rcases turn.results regular.results with ⟨_, none⟩ | ⟨success, succeeds⟩
    · have not := none activity (List.mem_of_mem_head? head)
      rw [Owner.renews_of_isGiven given] at not
      contradiction
    · rcases succeeds.agenda with ⟨ran, rest, _, goesOn⟩
      rw [goesOn, List.head?_cons] at head
      rcases Option.some.inj head with rfl
      rw [Engine.hasClosed_congr succeeds.bindings succeeds.caches, ← Owner.isGiven_told given,
        hasClosed_of_success succeeds.succeeds] at closed
      contradiction

/-- What has come to its end keeps what it holds. -/
theorem Ended.keeps (ended : machine.Ended owner) (turns : machine.TurnsTo after) :
    owner.Keeps machine.engine after.engine := by
  cases owner with
  | binding id =>
      have replaces : replaces? id machine = none :=
        replaces?_eq_none fun result head => by
          have not := ended.calm _ head
          rw [Owner.isGiven, beq_self_eq_true] at not
          contradiction
      have value := turns.value id
      rw [replaces, Option.none_or] at value
      exact value
  | cache id =>
      refine (turns.cache fun records head => ?_).1
      have not := ended.calm _ head
      rw [Owner.isGiven, beq_self_eq_true] at not
      contradiction

/-- What has come to its end does not go on, however the machine does. -/
theorem Ended.leads (ended : first.Ended owner) (regular : first.Regular)
    (leads : first.Leads machine past) :
    machine.Ended owner ∧ owner.Keeps first.engine machine.engine := by
  induction leads with
  | refl => exact ⟨ended, .refl owner _⟩
  | next leads goes ih =>
      have before := regular.leads leads
      have turns := goes.turn before.apart
      exact ⟨ended_of_turn before turns.turn (turns.retains.hasClosed ih.1.closed),
        ih.2.trans (ih.1.keeps turns)⟩

/-- What watches nothing once it is closed goes on to do so. -/
theorem unwatched_of_leads {id : Nat} (unwatched : first.engine.Unwatched id)
    (regular : first.Regular) (leads : first.Leads machine past)
    (byHand : ∀ passed ∈ past, passed.watches? ≠ some id) : machine.engine.Unwatched id := by
  induction leads with
  | refl => exact unwatched
  | next leads goes ih =>
      rcases List.forall_mem_cons.mp byHand with ⟨now, earlier⟩
      have before := regular.leads leads
      exact (goes.turn before.apart).retains.unwatched now (before.apart id) (ih earlier)

/-- A step that has an activity before it carries that out. -/
theorem Goes.does {activity : Activity} (goes : machine.Goes after)
    (head : machine.agenda.head? = some activity) :
    ∃ rest, after = act { machine with agenda := rest } activity := by
  rcases List.head?_eq_some_iff.mp head with ⟨rest, agenda⟩
  exact ⟨rest, goes.act_of_agenda agenda⟩

/-- Making a number watch by hand closes nothing. -/
theorem Goes.watches?_of_closing (goes : machine.Goes closed)
    (isOpen : machine.engine.hasClosed owner = false) (closes : closed.engine.hasClosed owner) :
    machine.watches? ≠ some owner.id := by
  intro watches
  rw [watches?] at watches
  split at watches
  · next command rest agenda =>
      rcases Command.of_watches? watches with ⟨table, reaction, rfl⟩
      rcases goes.does (by rw [agenda]; rfl) with ⟨others, rfl⟩
      rcases (machine.engine.register reaction).2.attach_eq with ⟨_, _, attached, _⟩
      have same : Engine.hasClosed ((machine.engine.register reaction).2.watch owner.id table
          (.callback (machine.engine.register reaction).1)) owner =
            machine.engine.hasClosed owner := by
        refine Engine.hasClosed_congr ?_ ?_ <;> rw [Engine.watch, attached] <;> rfl
      rw [← same] at isOpen
      exact absurd closes (Bool.eq_false_iff.mp isOpen)
  · contradiction

/-! ## The step that closes -/

/-- The next step closes a binding or a cache: by its name, or for want of anybody who holds it. -/
inductive Closes (owner : Owner) (machine : Machine) : Prop where
  | close {name : String}
      (head : machine.agenda.head? = some (.perform (owner.closing name)))
      (names : machine.engine.Names name owner)
  | drop {name : String} (head : machine.agenda.head? = some (.perform (.drop name)))
      (names : machine.engine.Names name owner)
      (free : machine.engine.isHeld (.object owner.id) = false)
  | letGo (head : machine.agenda.head? = some (.letGo (.object owner.id)))
      (isThere : machine.engine.hasObject owner)
      (givenUp : machine.engine.discarded.contains owner.id)
      (last : (machine.engine.holds.erase (.object owner.id)).contains (.object owner.id) = false)

/-- Such a step does close it. -/
theorem Closes.hasClosed (closes : machine.Closes owner) (goes : machine.Goes closed) :
    closed.engine.hasClosed owner := by
  cases closes with
  | close head names =>
      rcases goes.does head with ⟨rest, rfl⟩
      cases owner with
      | binding id =>
          rcases names.binding? with ⟨binding, found⟩
          have foundNext : machine.engine.allocate.2.binding? _ = some (id, binding) := found
          simp only [Owner.closing, act, perform, performBinding, BindingCommand.issued,
            performIssued, withBinding, become, foundNext]
          exact Engine.hasClosedBinding_close names.2
      | cache id =>
          rcases names.cache? with ⟨cache, found⟩
          simp only [Owner.closing, act, perform, performCache, withCache, found]
          exact Engine.hasClosedCache_close names.2
  | drop head names free =>
      rcases goes.does head with ⟨rest, rfl⟩
      exact Engine.hasClosed_drop names free
  | letGo head isThere givenUp last =>
      rcases goes.does head with ⟨rest, rfl⟩
      exact Engine.hasClosed_letGo isThere givenUp last

/-! ## The callbacks of what was closed -/

/-- No task is under way that has callbacks left to call, or a result to pass on. -/
def BetweenTasks (machine : Machine) : Prop :=
  machine.agenda.any Activity.isDrain → ∀ activity ∈ machine.agenda, activity.pends = false

/-- Between tasks no result is passed on, and nothing that is due passes one on or calls. -/
theorem BetweenTasks.quiet (between : machine.BetweenTasks) (regular : machine.Regular) :
    (∀ activity, machine.agenda.head? = some activity → activity.isApplying = false) ∧
      ∀ activity ∈ machine.agenda.tail, activity.pends = false := by
  cases drains : machine.agenda.any Activity.isDrain with
  | true =>
      have none := between drains
      refine ⟨fun activity head => ?_, fun activity due => none activity (List.mem_of_mem_tail due)⟩
      exact (Bool.or_eq_false_iff.mp (none activity (List.mem_of_mem_head? head))).2
  | false =>
      have behind : machine.agenda.tail.any Activity.isDrain = false :=
        List.any_eq_false.mpr fun activity due =>
          List.any_eq_false.mp drains activity (List.mem_of_mem_tail due)
      refine ⟨fun activity head => Bool.eq_false_iff.mpr fun applies => ?_, ?_⟩
      · exact absurd (regular.covered.applies activity head applies) (Bool.eq_false_iff.mp behind)
      · exact regular.covered.backed.pends_eq_false behind

/-- What calls or passes a result on after a turn, where nothing did before. -/
theorem Turn.pends {activity : Activity} (turn : machine.Turn after)
    (appliesNot : ∀ activity, machine.agenda.head? = some activity → activity.isApplying = false)
    (quiet : ∀ activity ∈ machine.agenda.tail, activity.pends = false)
    (due : activity ∈ after.agenda) (pends : activity.pends) :
    activity.renews ∨
      ∃ callback notice, activity = .call callback notice ∧ machine.MayCall callback.id := by
  rcases turn.comes with ⟨added, agenda, comes⟩
  rw [agenda] at due
  rcases List.mem_append.mp due with new | old
  · cases comes activity new with
    | ordinary ordinary => cases activity <;> contradiction
    | follows follows =>
        rcases follows.applying with ⟨before, head, applies⟩
        exact absurd applies (Bool.eq_false_iff.mp (appliesNot before head))
    | renews renews => exact .inl renews
    | calls calls =>
        rw [gives_of_not_applies appliesNot] at calls
        exact .inr ⟨_, _, rfl, calls.resolve_left (absurd · List.not_mem_nil)⟩
  · exact absurd pends (Bool.eq_false_iff.mp (quiet activity old))

/-- A callback of what is closed between tasks is gone. -/
theorem gone_of_closing {post : Post} {number : Nat} (regular : machine.Regular)
    (turns : machine.TurnsTo closed) (isOpen : machine.engine.hasClosed owner = false)
    (closes : closed.engine.hasClosed owner) (between : machine.BetweenTasks)
    (own : post ∈ owner.posts) (belongs : machine.Belongs post number) : closed.Gone number := by
  have named : post ≠ .elsewhere := by
    rintro rfl
    cases owner <;> simp [Owner.posts] at own
  rcases between.quiet regular with ⟨appliesNot, quiet⟩
  have later := belongs.goes turns
  refine ⟨later.given, fun other stands => ?_, fun call isDue same => ?_⟩
  · rcases later.place other stands with rfl
    cases stands with
    | there stands =>
        rcases stands with posted | ⟨is, _⟩
        · exact turns.retains.not_posted isOpen closes own belongs.given posted
        · exact named is
    | bears => exact named rfl
    | served due =>
        rcases turns.turn.pends appliesNot quiet due rfl with renews | ⟨_, _, calls, _⟩ <;>
          contradiction
  · rcases List.mem_filterMap.mp isDue with ⟨activity, due, calls⟩
    have pends : activity.pends := by
      rw [Activity.pends, calls]
      rfl
    rcases turns.turn.pends appliesNot quiet due pends with
      renews | ⟨callback, notice, rfl, mayCall⟩
    · cases activity <;> contradiction
    · rcases Option.some.inj calls with rfl
      exact belongs.mayNot named (same ▸ mayCall)

/-! ## What is closed for good -/

/-- What holds of a binding or a cache at any time after it was closed. -/
structure ClosedSince (owner : Owner) (closed later : Machine) (since : List Machine) : Prop where
  isClosed : later.engine.hasClosed owner
  /-- The value and its version, or the items, are what they were. -/
  keeps : owner.Keeps closed.engine later.engine
  /-- It watches nothing, unless somebody made its number watch by hand. -/
  unwatched : (∀ passed ∈ since, passed.watches? ≠ some owner.id) →
    later.engine.registry.tableOf? owner.id = none
  /-- A unit of it that comes up is only taken from the queue, and no transaction is run. -/
  skips {ran clock : Nat} {rest : List Activity} {tasks : List Task} {next : Machine} :
    later.agenda = .drain ran none :: rest →
    later.engine.queue = .unit owner.id owner.job clock :: tasks → later.step? = some next →
    next.engine = Engine.release { later.engine with queue := tasks } owner.id ∧
      next.agenda = .drain (ran + 1) none :: rest
  /-- Whatever it is asked, nothing is queued, and nothing watches anew. -/
  rejects {activity : Activity} {rest : List Activity} {next : Machine} :
    later.agenda = activity :: rest → activity.asks? later.engine = some owner →
    later.step? = some next → later.engine.WorksAlike next.engine

/--
Closing a binding or a cache, by its name, by dropping the name or by letting go of what was
dropped, is final: whatever the machine goes on to do, it stays closed, keeps what it holds,
watches nothing, runs no unit and queues none.  And unless it was closed by a task that still has
callbacks to call, no callback that was registered with it before is ever called again.
-/
theorem closing_is_final {name : String} {schema : StoreSchema} {config : Config}
    {before : List Machine} (course : (Engine.create name schema config).idle.Leads machine before)
    (goes : machine.Goes closed) (isOpen : machine.engine.hasClosed owner = false)
    (leads : closed.Leads later since) :
    (machine.Closes owner → closed.engine.hasClosed owner) ∧
    (closed.engine.hasClosed owner →
      ClosedSince owner closed later since ∧
      (machine.BetweenTasks → ∀ registering ∈ before, ∀ post ∈ owner.posts, ∀ number,
        registering.registers? = some (post, number) → told since number = [])) := by
  have idle := regular_idle name schema config
  have regular : machine.Regular := idle.leads course
  have regularClosed : closed.Regular := regular.goes goes
  have turns := goes.turn regular.apart
  refine ⟨fun closes => closes.hasClosed goes, fun closes => ⟨?_, ?_⟩⟩
  · have ended : closed.Ended owner := ended_of_turn regular turns.turn closes
    rcases ended.leads regularClosed leads with ⟨still, keeps⟩
    have unwatched : closed.engine.Unwatched owner.id :=
      turns.retains.unwatched (goes.watches?_of_closing isOpen closes) (regular.apart owner.id)
        (turns.retains.unwatched_before (regularClosed.apart owner.id) isOpen closes)
    exact {
      isClosed := still.closed
      keeps := keeps
      unwatched := fun byHand =>
        (unwatched_of_leads unwatched regularClosed leads byHand).tableOf? still.closed
      skips := fun agenda queue stepped => skips_of_closed agenda queue still.closed stepped
      rejects := fun agenda asks stepped => worksAlike_of_asks agenda asks still.closed stepped }
  · intro between registering member post own number registers
    rcases List.append_of_mem member with ⟨newer, older, rfl⟩
    rcases course.split with ⟨early, registered, registersNext, late⟩
    have regularEarly : registering.Regular := idle.leads early
    have belongs : machine.Belongs post number :=
      (regularEarly.belongs registersNext registers).leads (regularEarly.goes registersNext) late
    have gone : closed.Gone number :=
      gone_of_closing regular turns isOpen closes between own belongs
    exact (gone.leads regularClosed leads).2

/-- A binding is closed while its first unit is queued, and its consumer is never called. -/
theorem closing_is_final_of_run :
    let first : Engine := .create "s" ⟨1, [⟨"t", "id", false, []⟩]⟩ .standard
    let put : Command := .request (.submit none "t" (.put (.ofList [("id", .integer 1)])))
    let setup := course 60 first.idle
      [.binding (.create "b" "t" .all), .binding (.subscribe "b" ⟨"c", [], 0⟩)]
    let closing := start setup.1.engine (.binding (.close "b"))
    let closed := act { closing with agenda := [] } (.perform (.binding (.close "b")))
    let later := course 60 closed [.run, put, .binding (.refresh "b"), .run]
    setup.1.engine.isBusy 2 ∧ later.1.engine.hasClosed (.binding 2) ∧
      later.1.engine.versionOf 2 = closed.engine.versionOf 2 ∧
      later.1.engine.registry.tableOf? 2 = none ∧ told later.2 4 = [] := by
  intro first put setup closing closed later
  have facts : setup.1.agenda.isEmpty ∧ setup.1.engine.isBusy 2 ∧
      setup.2.any (·.registers? == some (.consumer 2, 4)) ∧
      closing.engine.hasClosed (.binding 2) = false ∧
      ((closing.engine.handles "b").binding? = some 2 ∧ (closing.engine.bindings.get? 2).isSome) ∧
      (∀ passed ∈ later.2, passed.watches? ≠ some 2) := by
    subst later closed closing setup put first
    decide +kernel
  have before : first.idle.Leads setup.1 setup.2 := leads_course 60 first.idle _
  have agenda : closing.agenda = [.perform (.binding (.close "b"))] := rfl
  have goes : closing.Goes closed := .step rfl
  have leads : closed.Leads later.1 later.2 := leads_course 60 closed _
  rcases facts with ⟨finished, busy, registered, isOpen, names, byHand⟩
  have course : first.idle.Leads closing (setup.1 :: setup.2) :=
    before.next (.call (List.isEmpty_iff.mp finished) _)
  clear_value later closed closing setup
  rcases List.any_eq_true.mp registered with ⟨registering, member, registers⟩
  have closes : closing.Closes (.binding 2) := .close (by rw [agenda]; rfl) names
  have between : closing.BetweenTasks := by
    rw [BetweenTasks, agenda]
    exact nofun
  rcases closing_is_final course goes isOpen leads with ⟨isFinal, onwards⟩
  rcases onwards (isFinal closes) with ⟨since, silent⟩
  exact ⟨busy, since.isClosed, since.keeps.2, since.unwatched byHand,
    silent between registering (List.mem_cons_of_mem _ member) _ List.mem_cons_self 4
      (beq_iff_eq.mp registers)⟩

end Machine

end LiveTable
