import LiveTable.Proofs.Engine.Emptying
import LiveTable.Proofs.Engine.Resolution

/-!
# Requests that run once are sequential

Calls of calm commands lead from a calm engine, for which no request waits, to engines
with ledgers.  Of all of them it holds that the requests run once each and in the order
of submission, to the outcomes that they come to one after another on the store that
there was at first.
-/

set_option autoImplicit false

namespace LiveTable

variable {closable : Bool} {limit : Nat}

/-! ## Calls -/

namespace Machine

variable {machine after last : Machine} {first : Store} {ledger : Ledger} {engine : Engine}
  {command : Command}

/-- The first step of a call keeps the ledger faithful. -/
theorem Opened.faithful (opened : Opened closable engine command after)
    (calm : engine.Calm closable) (calmCommand : command.Calm closable)
    (faithful : Faithful first ledger ⟨engine, [], .nothing, []⟩) :
    Faithful first ((start engine command).enter ledger) after := by
  cases opened with
  | progressed progress =>
      apply progress.faithful (ready_start calm command)
      exact faithful.carry rfl (.refl _) (fun _ => rfl) (Nat.le_refl _) rfl
  | @awaited table request =>
      have oneShot : request.isOneShot := calmCommand.calm
      have waiting := engine.waiting_withRequest ⟨table, request.mode, request⟩
      exact faithful.submitted oneShot waiting rfl rfl rfl rfl
  | @named name table request =>
      have oneShot : request.isOneShot := calmCommand.calm
      have waiting := engine.waiting_withRequest ⟨table, request.mode, request⟩
      exact faithful.submitted oneShot waiting rfl rfl rfl rfl

theorem Calm.ledgerAfter_submitted (calm : machine.Calm closable) (ledger : Ledger) :
    (machine.ledgerAfter limit ledger).submitted = ledger.submitted := by
  induction limit generalizing machine ledger with
  | zero => rfl
  | succ limit ih =>
      rw [ledgerAfter]
      split
      · rfl
      · next stepped =>
          rw [ih (calm.preserved stepped), calm.submitted]

/-- A run that has ended adds nothing to the ledger. -/
theorem ledgerAfter_of_run? {least : Nat} (ran : machine.run? least = some last)
    (enough : least ≤ limit) (ledger : Ledger) :
    machine.ledgerAfter limit ledger = machine.ledgerAfter least ledger := by
  induction least generalizing machine ledger limit with
  | zero =>
      rw [run?] at ran
      split at ran
      · next ended =>
          cases limit with
          | zero => rfl
          | succ limit => rw [ledgerAfter, ledgerAfter, step?_of_ended (List.isEmpty_iff.mp ended)]
      · contradiction
  | succ least ih =>
      cases limit with
      | zero => contradiction
      | succ limit =>
          rw [ledgerAfter, ledgerAfter]
          cases stepped : machine.step? with
          | none => rfl
          | some next =>
              rw [run?, stepped] at ran
              exact ih ran (Nat.le_of_succ_le_succ enough) _

end Machine

namespace Engine

open Machine (Faithful start)

/-- Engines, each with its ledger, that calls of calm commands lead to. -/
inductive Served (closable : Bool) (first : Engine) : Engine → Ledger → Prop where
  | start : Served closable first first .empty
  | call {engine after : Engine} {ledger : Ledger} {command : Command} {limit : Nat}
      {reply : Reply} {log : List Event} (served : Served closable first engine ledger)
      (calm : command.Calm closable)
      (called : engine.call? limit command = some (reply, log, after)) :
      Served closable first after ((Machine.start engine command).ledgerAfter limit ledger)

/-- A calm engine between calls, and a ledger that is faithful. -/
structure Tallied (closable : Bool) (first : Store) (ledger : Ledger) (engine : Engine) :
    Prop where
  calm : engine.Calm closable
  faithful : Faithful first ledger ⟨engine, [], .nothing, []⟩

variable {first : Store} {ledger : Ledger} {engine after : Engine} {command : Command}
  {reply : Reply} {log : List Event}

theorem Tallied.call (tallied : Tallied closable first ledger engine)
    (calm : command.Calm closable)
    (called : engine.call? limit command = some (reply, log, after)) :
    Tallied closable first ((start engine command).ledgerAfter limit ledger) after := by
  rcases of_call? called with ⟨last, ran, ended, _, rfl⟩
  rcases Machine.opened_start tallied.calm calm with ⟨begun, stepped, opened, calmBegun⟩
  cases limit with
  | zero => contradiction
  | succ limit =>
      rw [Machine.run?, stepped] at ran
      rw [Machine.ledgerAfter, stepped]
      let Kept (machine : Machine) (now : Ledger) : Prop :=
        machine.Calm closable ∧ Faithful first now machine
      have kept : Kept last (begun.ledgerAfter limit ((start engine command).enter ledger)) := by
        apply Machine.run?_ledger Kept ?_ ?_ ran
        · rintro machine after now ⟨calm, faithful⟩ stepped
          exact ⟨calm.preserved stepped, faithful.step calm stepped⟩
        · exact ⟨calmBegun, opened.faithful tallied.calm calm tallied.faithful⟩
      have settling : last.settling = [] := by rw [Machine.settling, ended]
      refine ⟨kept.1.engine, ?_⟩
      exact kept.2.carry rfl (.refl _) (fun _ => rfl) (Nat.le_refl _) settling.symm

/-- Where no request waits and none was submitted, nothing is to be told. -/
theorem tallied_empty {first : Engine} (calm : first.Calm closable) (idle : first.waiting = [])
    (numbered : ∀ id outcome, first.outcomes.get? id = some outcome → id < first.nextId) :
    Tallied closable first.store .empty first where
  calm := calm
  faithful :=
    { order := idle.symm
      oneShot := List.forall_mem_nil _
      distinct := .nil
      numbered := List.forall_mem_nil _
      store := .refl first.store
      outcomes := rfl
      held settled := absurd settled List.not_mem_nil
      known held := ⟨numbered _ _ held, fun submitted => absurd submitted List.not_mem_nil⟩
      spent := List.forall_mem_nil _ }

/-! ## Requests that are resolved -/

theorem Served.tallied {first : Engine} (served : Served closable first engine ledger)
    (calm : first.Calm closable) (idle : first.waiting = [])
    (numbered : ∀ id outcome, first.outcomes.get? id = some outcome → id < first.nextId) :
    Tallied closable first.store ledger engine := by
  induction served with
  | start => exact tallied_empty calm idle numbered
  | call _ calmCommand called ih => exact ih.call calmCommand called

/-- A call that begins with waiting for a request replies with what the request comes to. -/
theorem call?_of_awaits {begun : Machine} {id : Nat}
    (stepped : (start engine command).step? = some begun) (calm : begun.Calm closable)
    (faithful : Faithful first ledger begun) (awaits : begun.Awaits id ledger) :
    ∃ own, (id, own) ∈ (first.sequence ledger.submitted).1 ∧
      ∃ least log after, ∀ limit, least ≤ limit →
        engine.call? limit command = some (.outcome (some own), log, after) := by
  rcases calm.ends with ⟨least, last, ends⟩
  rcases awaits.run calm faithful (ends least (Nat.le_refl _)) with ⟨own, reply, among⟩
  refine ⟨own, among, least + 1, last.log, last.engine, fun limit enough => ?_⟩
  rw [call?, Machine.ends_of_step stepped ends limit enough, ← reply]
  rfl

/-- Resolving a request by its name answers what the request comes to. -/
theorem Tallied.resolves (tallied : Tallied closable first ledger engine) {name : String} {id : Nat}
    (stands : (engine.handles name).request? = some id)
    (submitted : id ∈ ledger.submitted.map Prod.fst) (untaken : id ∉ ledger.taken) :
    ∃ own, (id, own) ∈ (first.sequence ledger.submitted).1 ∧
      ∃ least log after, ∀ limit, least ≤ limit →
        engine.call? limit (.request (.resolve name)) = some (.outcome (some own), log, after) := by
  let nameless : Engine := engine.rename name fun handles => { handles with request? := none }
  let begun : Machine := ⟨nameless, [.resolve id], .nothing, []⟩
  have stepped : (start engine (.request (.resolve name))).step? = some begun := by
    show some (Machine.performRequest ⟨engine, [], .nothing, []⟩ (.resolve name)) = some begun
    simp only [Machine.performRequest, stands]
    rfl
  have ready := Machine.ready_start tallied.calm (.request (.resolve name))
  have progress : Machine.Progress closable 16 ⟨engine, [], .nothing, []⟩
      (.perform (.request (.resolve name))) begun := .resolves stands
  have faithful : Faithful first ledger begun := by
    apply progress.faithful ready
    exact tallied.faithful.carry rfl (.refl _) (fun _ => rfl) (Nat.le_refl _) rfl
  apply call?_of_awaits stepped (progress.calm ready) faithful
  refine ⟨⟨[], .resolve id, rfl, rfl, List.forall_mem_nil _⟩, ?_, submitted, untaken⟩
  intro other standsToo
  have renamed := engine.handles_rename name other fun handles => { handles with request? := none }
  change (nameless.handles other).request? = some id at standsToo
  rw [renamed] at standsToo
  split at standsToo
  · contradiction
  · next different => exact different (tallied.calm.owned standsToo stands)

/-- Resolving a request in its submission answers what the request comes to. -/
theorem Tallied.submits (tallied : Tallied closable first ledger engine) (table : String)
    {request : Request} (oneShot : request.isOneShot) :
    ∃ own, (engine.nextId, own) ∈
        (first.sequence (ledger.submitted ++ [(engine.nextId, ⟨table, request.mode, request⟩)])).1 ∧
      ∃ least log after, ∀ limit, least ≤ limit →
        engine.call? limit (.request (.submit none table request)) =
          some (.outcome (some own), log, after) := by
  let command : Command := .request (.submit none table request)
  have calm : command.Calm closable := Command.calm_of_silent oneShot rfl
  rcases Machine.opened_start tallied.calm calm with ⟨begun, stepped, opened, calmBegun⟩
  have faithful := opened.faithful tallied.calm calm tallied.faithful
  have awaited := Machine.step?_awaited tallied.calm.peaceful table request
  apply call?_of_awaits stepped calmBegun faithful
  rcases Option.some.inj (stepped.symm.trans awaited) with rfl
  refine ⟨⟨[], _, rfl, rfl, List.forall_mem_nil _⟩, ?_, ?_, ?_⟩
  · exact fun name stands => Nat.lt_irrefl _ (tallied.calm.named stands)
  · exact List.mem_map_of_mem (List.mem_append_right _ List.mem_cons_self)
  · exact fun taken => Nat.lt_irrefl _ (tallied.faithful.spent _ taken)

/-- A submission under a name is noted, and the name stands for it afterwards. -/
theorem Tallied.names (tallied : Tallied closable first ledger engine) (name table : String)
    (request : Request) :
    ∃ after, (after.handles name).request? = some engine.nextId ∧
      ∀ limit, engine.call? (limit + 1) (.request (.submit (some name) table request)) =
        some (.settled false, [], after) := by
  have unsettled : engine.outcomes.contains engine.nextId = false := by
    rw [OrderedMap.contains_eq_isSome, Option.isSome_eq_false_iff, Option.isNone_iff_eq_none]
    by_contra there
    rcases Option.ne_none_iff_exists'.mp there with ⟨outcome, held⟩
    exact Nat.lt_irrefl _ (tallied.faithful.known held).1
  let unit : WorkUnit := ⟨table, request.mode, request⟩
  refine ⟨(engine.withRequest unit).naming name engine.nextId, ?_, fun limit => ?_⟩
  · rw [request?_naming, if_pos rfl]
  · rw [call?, Machine.run?, Machine.step?_named tallied.calm.peaceful, unsettled]
    cases limit <;> rfl

/-- What is submitted comes last in the ledger. -/
theorem Tallied.records (tallied : Tallied closable first ledger engine) (name? : Option String)
    (table : String) {request : Request} (oneShot : request.isOneShot) (limit : Nat) :
    ((start engine (.request (.submit name? table request))).ledgerAfter (limit + 1)
        ledger).submitted =
      ledger.submitted ++ [(engine.nextId, ⟨table, request.mode, request⟩)] := by
  let command : Command := .request (.submit name? table request)
  have calm : command.Calm closable := Command.calm_of_silent oneShot rfl
  rcases Machine.opened_start tallied.calm calm with ⟨begun, stepped, _, calmBegun⟩
  rw [Machine.ledgerAfter, stepped]
  exact calmBegun.ledgerAfter_submitted _

/-! ## Runs until nothing waits -/

/-- An engine and its ledger after a command that takes no more than `limit` steps. -/
def serve (limit : Nat) (state : Engine × Ledger) (command : Command) : Engine × Ledger :=
  (state.1.afterCall limit command, (start state.1 command).ledgerAfter limit state.2)

theorem Tallied.run_submitted (tallied : Tallied closable first ledger engine) :
    ((start engine .run).ledgerAfter limit ledger).submitted = ledger.submitted := by
  cases limit with
  | zero => rfl
  | succ limit =>
      rw [Machine.ledgerAfter, Machine.step?_run]
      exact tallied.calm.start_run.ledgerAfter_submitted _

/-- After a number of runs all requests have run that were submitted. -/
theorem Tallied.finishes (tallied : Tallied closable first ledger engine) :
    ∃ rounds least, ∀ limit, least ≤ limit →
      ((List.replicate rounds Command.run).foldl (serve limit) (engine, ledger)).2.ran =
        ledger.submitted := by
  have descent : WellFounded (InvImage Multiset.IsDershowitzMannaLT Engine.load) :=
    InvImage.wf Engine.load Multiset.wellFounded_isDershowitzMannaLT
  induction engine using descent.induction generalizing ledger with
  | _ engine ih =>
      cases queue : engine.queue with
      | nil =>
          refine ⟨0, 0, fun limit _ => ?_⟩
          have order := tallied.faithful.order
          rw [waiting, queue, List.filterMap_nil, List.append_nil] at order
          exact order.symm
      | cons task rest =>
          rcases tallied.calm.call_ends run_calm with ⟨least, ⟨reply, log, after⟩, ends⟩
          have called := ends least (Nat.le_refl least)
          rcases of_call? called with ⟨last, ran, _⟩
          have lighter := tallied.calm.run_lightens queue called
          rcases ih after lighter (tallied.call run_calm called) with ⟨rounds, enough, finishes⟩
          refine ⟨rounds + 1, max least enough, fun limit large => ?_⟩
          rw [Nat.max_le] at large
          have served : serve limit (engine, ledger) .run =
              (after, (start engine .run).ledgerAfter least ledger) := by
            rw [serve, afterCall, ends limit large.1,
              Machine.ledgerAfter_of_run? ran large.1]
            rfl
          rw [List.replicate_succ, List.foldl_cons, served, finishes limit large.2,
            tallied.run_submitted]

/-! ## The result -/

/--
The requests of an engine, noted in a ledger, are sequential: they are carried out as if each
ran on the first store by itself, after those that were submitted before it.
-/
structure Sequential (closable : Bool) (first engine : Engine) (ledger : Ledger) : Prop where
  /-- A submission is noted after all others. -/
  records (name? : Option String) (table : String) {request : Request}
    (oneShot : request.isOneShot) (limit : Nat) :
    ((start engine (.request (.submit name? table request))).ledgerAfter (limit + 1)
        ledger).submitted =
      ledger.submitted ++ [(engine.nextId, ⟨table, request.mode, request⟩)]
  /-- What has run has run in the order of submission, and the rest waits. -/
  order : ledger.submitted = ledger.ran ++ engine.waiting
  /-- No request occurs twice. -/
  once : (ledger.submitted.map Prod.fst).Nodup
  /-- After a number of runs everything has run. -/
  finishes : ∃ rounds least, ∀ limit, least ≤ limit →
    ((List.replicate rounds Command.run).foldl (serve limit) (engine, ledger)).2.ran =
      ledger.submitted
  /-- After a run without failure no request waits. -/
  empties {limit ran : Nat} {log : List Event} {after : Engine}
    (called : engine.call? limit .run = some (.drained (.ok ran), log, after)) :
    after.waiting = []
  /-- What has run was given what it comes to in the sequence. -/
  settles : ledger.settled = (first.store.sequence ledger.ran).1
  store : engine.store.Agrees (first.store.sequence ledger.ran).2
  /-- What was given and not taken is there. -/
  holds {id : Nat} {own : Except Error Outcome} (settled : (id, own) ∈ ledger.settled)
    (untaken : id ∉ ledger.taken) : engine.outcomes.get? id = some own
  /-- A request that fails leaves all rows. -/
  harmless {early late : List (Nat × WorkUnit)} {id : Nat} {unit : WorkUnit} {error : Error}
    (ran : ledger.ran = early ++ (id, unit) :: late)
    (failed : ((first.store.sequence early).2.attempt unit).1 = .error error) :
    Tables.SameRows ((first.store.sequence early).2.attempt unit).2.tables
      (first.store.sequence early).2.opened.tables
  /-- Every call comes to an end. -/
  ends {command : Command} (calm : command.Calm closable) :
    ∃ least answer, ∀ limit, least ≤ limit → engine.call? limit command = some answer
  /-- A name stands for what was submitted under it last. -/
  names (name table : String) (request : Request) :
    ∃ after, (after.handles name).request? = some engine.nextId ∧
      ∀ limit, engine.call? (limit + 1) (.request (.submit (some name) table request)) =
        some (.settled false, [], after)
  /-- Resolving what was not taken answers what it comes to in the sequence. -/
  resolves {name : String} {id : Nat} (stands : (engine.handles name).request? = some id)
    (submitted : id ∈ ledger.submitted.map Prod.fst) (untaken : id ∉ ledger.taken) :
    ∃ own, (id, own) ∈ (first.store.sequence ledger.submitted).1 ∧
      ∃ least log after, ∀ limit, least ≤ limit →
        engine.call? limit (.request (.resolve name)) = some (.outcome (some own), log, after)
  /-- So does a submission without a name, which is resolved at once. -/
  submits (table : String) {request : Request} (oneShot : request.isOneShot) :
    ∃ own, (engine.nextId, own) ∈
        (first.store.sequence
          (ledger.submitted ++ [(engine.nextId, ⟨table, request.mode, request⟩)])).1 ∧
      ∃ least log after, ∀ limit, least ≤ limit →
        engine.call? limit (.request (.submit none table request)) =
          some (.outcome (some own), log, after)

/--
Requests that run once are sequential, whatever calls of calm commands they are interleaved
with.
-/
theorem requests_run_in_sequence {first : Engine} (calm : first.Calm closable)
    (idle : first.waiting = [])
    (numbered : ∀ id outcome, first.outcomes.get? id = some outcome → id < first.nextId)
    (served : Served closable first engine ledger) : Sequential closable first engine ledger := by
  have tallied := served.tallied calm idle numbered
  have faithful := tallied.faithful
  constructor
  case records => exact tallied.records
  case order => exact faithful.order
  case once => exact faithful.distinct
  case finishes => exact tallied.finishes
  case empties => exact tallied.calm.run_empties
  case settles =>
    have outcomes := faithful.outcomes
    rwa [Machine.settling, List.append_nil] at outcomes
  case store => exact faithful.store
  case holds => exact faithful.held
  case harmless =>
    intro early late id unit error ran failed
    have oneShot := faithful.oneShot
    rw [faithful.order, ran, List.forall_mem_append, List.forall_mem_append,
      List.forall_mem_cons] at oneShot
    exact Store.attempt_error (Store.sound_sequence calm.sound oneShot.1.1) oneShot.1.2.1 failed
  case ends => exact tallied.calm.call_ends
  case names => exact tallied.names
  case resolves => exact tallied.resolves
  case submits => exact tallied.submits

theorem create_calm (name : String) (schema : StoreSchema) (config : Config) :
    (create name schema config).Calm closable where
  peaceful :=
    { busy := List.forall_mem_nil _
      listeners := List.forall_mem_nil _
      registry := quiet_empty
      former := fun held => nomatch held
      bindings := fun held => nomatch held
      caches := fun held => nomatch held }
  sound := ⟨Tables.empty_wellFormed, fun _ => rfl⟩
  created isOpen := absurd isOpen Bool.false_ne_true
  unblocked _ := rfl
  tasks := List.forall_mem_nil _
  named stands := nomatch stands
  owned stands := nomatch stands

theorem Served.serve {first : Engine} {state : Engine × Ledger}
    (served : Served closable first state.1 state.2) (calm : command.Calm closable)
    (ends : (state.1.call? limit command).isSome) :
    Served closable first (serve limit state command).1 (serve limit state command).2 := by
  rcases Option.isSome_iff_exists.mp ends with ⟨⟨reply, log, after⟩, called⟩
  have reached : (Engine.serve limit state command).1 = after := by
    rw [Engine.serve, afterCall, called]
    rfl
  rw [reached]
  exact served.call calm called

/--
A run stops at the unit of a binding whose table is missing.  A record and one without its
key were to be put before; both wait, and are put in sequence.
-/
theorem stopped_run_keeps_sequence :
    let first := create "s" ⟨1, [⟨"t", "id", false, []⟩]⟩ .standard
    let bind : Command := .binding (.create "b" "none" .all)
    let put : Command := .request (.submit (some "p") "t" (.put (.ofList [("id", .integer 1)])))
    let fail : Command := .request (.submit (some "q") "t" (.put (.ofList [])))
    let bound := serve 30 (first, .empty) bind
    let asked := serve 30 bound put
    let both := serve 30 asked fail
    let stopped := serve 30 both .run
    stopped.1.waiting.length = 2 ∧ Sequential true first stopped.1 stopped.2 := by
  intro first bind put fail bound asked both stopped
  have calm : bind.Calm true ∧ put.Calm true ∧ fail.Calm true := by
    refine ⟨?_, ?_, ?_⟩ <;> exact Command.calm_of_silent rfl rfl
  have servedBound : Served true first bound.1 bound.2 := by
    refine Served.serve .start calm.1 ?_
    subst bind first
    decide +kernel
  have servedAsked : Served true first asked.1 asked.2 := by
    refine servedBound.serve calm.2.1 ?_
    subst bound put bind first
    decide +kernel
  have servedBoth : Served true first both.1 both.2 := by
    refine servedAsked.serve calm.2.2 ?_
    subst asked fail bound put bind first
    decide +kernel
  have served : Served true first stopped.1 stopped.2 := by
    refine servedBoth.serve run_calm ?_
    subst both asked fail bound put bind first
    decide +kernel
  constructor
  · subst stopped both asked fail bound put bind first
    decide +kernel
  · exact requests_run_in_sequence (create_calm _ _ _) rfl (fun _ _ held => nomatch held) served

end Engine

end LiveTable
