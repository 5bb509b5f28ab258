import LiveTable.Proofs.Engine.Termination

/-!
# Calls of calm commands

A call begins with the command alone on the agenda.  A submission puts a request with a
new number at the end of the queue; without a name it is then resolved.  Every other calm
command begins like any quiet activity, so every call of a calm command comes to an end.
-/

set_option autoImplicit false

namespace LiveTable

variable {closable : Bool} {engine : Engine}

namespace Engine

/-- The engine with a request at the end of its queue. -/
def withRequest (engine : Engine) (unit : WorkUnit) : Engine :=
  { engine with
    nextId := engine.nextId + 1
    queue := engine.queue ++ [.unit engine.nextId (.request unit) engine.clock.number]
    busy := engine.nextId :: engine.busy }

/-- The engine in which a name stands for the request that was submitted last. -/
def naming (engine : Engine) (name : String) (id : Nat) : Engine :=
  engine.rename name fun handles => { handles with request? := some id }

theorem submit_eq (peaceful : engine.Peaceful closable) (table : String) (request : Request) :
    engine.submit table request =
      (engine.nextId, engine.withRequest ⟨table, request.mode, request⟩) := by
  have idle : engine.allocate.2.isBusy engine.nextId = false := by
    rw [isBusy, Bool.eq_false_iff]
    intro busy
    exact Nat.lt_irrefl _ (peaceful.busy _ (List.contains_iff_mem.mp busy))
  show (engine.nextId, (engine.allocate.2.schedule engine.nextId _).2) = _
  rw [schedule, idle]
  rfl

theorem Calm.withRequest (calm : engine.Calm closable) {unit : WorkUnit}
    (oneShot : unit.request.isOneShot) : (engine.withRequest unit).Calm closable := by
  have grown := calm.peaceful.grow (Nat.le_succ _)
  have peaceful : (engine.withRequest unit).Peaceful closable := by
    refine { grown with busy := ?_ }
    intro id busy
    rcases List.mem_cons.mp busy with rfl | before
    · exact Nat.lt_succ_self _
    · exact grown.busy id before
  refine { calm with peaceful := peaceful, tasks := ?_, named := ?_ }
  · intro task member
    rcases List.mem_append.mp member with before | new
    · exact calm.tasks task before
    · rw [List.mem_singleton.mp new]
      exact oneShot
  · exact fun stands => Nat.lt_succ_of_lt (calm.named stands)

theorem request?_naming (engine : Engine) (name sought : String) (id : Nat) :
    ((engine.naming name id).handles sought).request? =
      if sought = name then some id else (engine.handles sought).request? := by
  rw [naming, handles_rename]
  split <;> rfl

theorem waiting_withRequest (engine : Engine) (unit : WorkUnit) :
    (engine.withRequest unit).waiting = engine.waiting ++ [(engine.nextId, unit)] := by
  rw [waiting, withRequest, List.filterMap_append]
  rfl

theorem Calm.naming (calm : engine.Calm closable) (name : String) {id : Nat}
    (numbered : id < engine.nextId)
    (fresh : ∀ other, (engine.handles other).request? ≠ some id) :
    (engine.naming name id).Calm closable := by
  refine { calm with peaceful := { calm.peaceful with }, named := ?_, owned := ?_ }
  · intro sought found stands
    rw [request?_naming] at stands
    split at stands
    · rw [← Option.some.inj stands]
      exact numbered
    · exact calm.named stands
  · intro sought other found stands standsToo
    rw [request?_naming] at stands standsToo
    split at stands <;> split at standsToo
    · next same sameToo => rw [same, sameToo]
    · rw [← stands] at standsToo
      exact absurd standsToo (fresh other)
    · rw [← standsToo] at stands
      exact absurd stands (fresh sought)
    · exact calm.owned stands standsToo

end Engine

namespace Machine

/-- What the first step of a call can come to. -/
inductive Opened (closable : Bool) (engine : Engine) : Command → Machine → Prop where
  | progressed {command : Command} {after : Machine}
      (progress : Progress closable 16 ⟨engine, [], .nothing, []⟩ (.perform command) after) :
      Opened closable engine command after
  | awaited {table : String} {request : Request} :
      Opened closable engine (.request (.submit none table request))
        ⟨engine.withRequest ⟨table, request.mode, request⟩, [.resolve engine.nextId], .nothing, []⟩
  | named {name : String} {table : String} {request : Request} :
      Opened closable engine (.request (.submit (some name) table request))
        ⟨(engine.withRequest ⟨table, request.mode, request⟩).naming name engine.nextId, [],
          .settled (engine.outcomes.contains engine.nextId), []⟩

theorem step?_awaited (peaceful : engine.Peaceful closable) (table : String) (request : Request) :
    (start engine (.request (.submit none table request))).step? =
      some ⟨engine.withRequest ⟨table, request.mode, request⟩, [.resolve engine.nextId],
        .nothing, []⟩ := by
  have submitted := Engine.submit_eq peaceful table request
  show some (performRequest ⟨engine, [], .nothing, []⟩ (.submit none table request)) = some _
  simp only [performRequest, submitted]
  rfl

theorem step?_named (peaceful : engine.Peaceful closable) (name table : String)
    (request : Request) :
    (start engine (.request (.submit (some name) table request))).step? =
      some ⟨(engine.withRequest ⟨table, request.mode, request⟩).naming name engine.nextId, [],
        .settled (engine.outcomes.contains engine.nextId), []⟩ := by
  have submitted := Engine.submit_eq peaceful table request
  show some (performRequest ⟨engine, [], .nothing, []⟩ (.submit (some name) table request)) =
    some _
  simp only [performRequest, submitted]
  rfl

theorem ready_start (calm : engine.Calm closable) (command : Command) :
    Ready closable ⟨engine, [], .nothing, []⟩ (.perform command) where
  engine := calm
  agenda := List.forall_mem_nil _
  ordered := .singleton _
  final := by
    rintro ⟨later, member, final⟩
    rw [List.mem_singleton.mp member] at final
    contradiction
  concluded reads := absurd reads Bool.false_ne_true

/-- The first step of a call of a calm command. -/
theorem opened_start (calm : engine.Calm closable) {command : Command}
    (calmCommand : command.Calm closable) :
    ∃ after, (start engine command).step? = some after ∧ Opened closable engine command after ∧
      after.Calm closable := by
  by_cases submits : ∃ name? table request, command = .request (.submit name? table request)
  · rcases submits with ⟨name?, table, request, rfl⟩
    have oneShot : request.isOneShot := calmCommand.calm
    have requested : (engine.withRequest ⟨table, request.mode, request⟩).Calm closable :=
      calm.withRequest oneShot
    cases name? with
    | none =>
        refine ⟨_, step?_awaited calm.peaceful table request, .awaited, ?_⟩
        refine .of_loose requested (loose_cons rfl (.singleton _)) ?_ ?_
        · exact List.forall_mem_singleton.mpr trivial
        · rintro ⟨later, member, final⟩
          rw [List.mem_singleton.mp member] at final
          contradiction
    | some name =>
        refine ⟨_, step?_named calm.peaceful name table request, .named, ?_⟩
        have fresh (other : String) :
            ((engine.withRequest ⟨table, request.mode, request⟩).handles other).request? ≠
              some engine.nextId :=
          fun stands => Nat.lt_irrefl _ (calm.named stands)
        refine .of_loose (requested.naming name (Nat.lt_succ_self _) fresh) loose_nil ?_ ?_
        · exact List.forall_mem_nil _
        · rintro ⟨later, member, final⟩
          contradiction
  · refine ⟨_, rfl, ?_⟩
    have progress : Progress closable 16 ⟨engine, [], .nothing, []⟩ (.perform command)
        (perform ⟨engine, [], .nothing, []⟩ command) := by
      refine progress_perform calm calmCommand (by decide) (fun _ => by decide) ?_
      exact fun name? table request same => submits ⟨name?, table, request, same⟩
    exact ⟨.progressed progress, progress.calm (ready_start calm command)⟩

end Machine

/-- Every call of a calm command comes to an end. -/
theorem Engine.Calm.call_ends (calm : engine.Calm closable) {command : Command}
    (calmCommand : command.Calm closable) :
    ∃ least answer, ∀ limit, least ≤ limit → engine.call? limit command = some answer := by
  rcases Machine.opened_start calm calmCommand with ⟨after, stepped, _, calmAfter⟩
  rcases calmAfter.ends with ⟨least, last, ends⟩
  refine ⟨least + 1, (last.reply, last.log, last.engine), fun limit enough => ?_⟩
  rw [call?, Machine.ends_of_step stepped ends limit enough]
  rfl

end LiveTable
