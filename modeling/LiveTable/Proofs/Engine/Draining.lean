import LiveTable.Proofs.Engine.Descent
import LiveTable.Proofs.Engine.Idleness
import Mathlib.Logic.Relation

/-!
# Draining terminates

Whatever has been done to an engine before, a command comes to its end if no callback queues
anything on the way: whatever bindings there are, and whether they erase; whatever waits in
the queue and in the outbox; and however many units fail.  In particular the queue is drained,
and a request is resolved.
-/

set_option autoImplicit false

namespace LiveTable

namespace Machine

variable {machine after last : Machine}

/-- One machine comes to another in any number of steps. -/
def LeadsTo : Machine → Machine → Prop :=
  Relation.ReflTransGen fun before after => before.step? = some after

/-- No command that a callback runs on the way queues anything. -/
def Undisturbed (machine : Machine) : Prop :=
  ∀ {later : Machine}, machine.LeadsTo later →
    ∀ {command : Command} {rest : List Activity}, later.agenda = .perform command :: rest →
      QueuesNothing { later with agenda := rest } command

/-! ## Following a run -/

/-- Whether an activity is no command, or one that queues nothing whatever the engine. -/
def asks : Activity → Bool
  | .perform (.inquire _) | .perform .run => true
  | .perform _ => false
  | _ => true

/-- Whether a machine comes to its end in a number of steps, and its callbacks only ask. -/
def onlyAsks : Nat → Machine → Bool
  | 0, machine => machine.agenda.isEmpty
  | limit + 1, machine => machine.agenda.head?.all asks && machine.step?.all (onlyAsks limit)

theorem queuesNothing_of_asks {command : Command} (idle : asks (.perform command)) :
    machine.QueuesNothing command := by
  cases command with
  | inquire inquiry => exact ⟨rfl, rfl, rfl⟩
  | run => exact ⟨rfl, rfl, rfl⟩
  | _ => contradiction

/-- To see that a run is undisturbed it is enough to follow it. -/
theorem undisturbed_of_onlyAsks {limit : Nat} (follows : machine.onlyAsks limit) :
    machine.Undisturbed := by
  intro later leads command rest agenda
  induction limit generalizing machine with
  | zero =>
      have ended : machine.agenda = [] := List.isEmpty_iff.mp follows
      rcases Relation.ReflTransGen.cases_head leads with rfl | ⟨next, stepped, _⟩
      · rw [ended] at agenda
        contradiction
      · rw [step?_of_ended ended] at stepped
        contradiction
  | succ limit ih =>
      rw [onlyAsks, Bool.and_eq_true] at follows
      rcases Relation.ReflTransGen.cases_head leads with rfl | ⟨next, stepped, onwards⟩
      · rw [agenda] at follows
        exact queuesNothing_of_asks follows.1
      · rw [stepped] at follows
        exact ih follows.2 onwards

/-! ## Steps -/

/-- A machine that no callback disturbs, with its agenda and its store in order. -/
structure Descending (machine : Machine) : Prop where
  ordered : List.IsChain Activity.Before machine.agenda
  keyed : machine.engine.store.Keyed
  undisturbed : machine.Undisturbed

theorem Descending.step (descending : machine.Descending) (stepped : machine.step? = some after) :
    after.Descending ∧
      Multiset.IsDershowitzMannaLT after.outstanding machine.outstanding := by
  have keyed := keyed_step descending.keyed stepped
  have undisturbed : after.Undisturbed := fun leads _ _ agenda =>
    descending.undisturbed (.head stepped leads) agenda
  rcases of_step? stepped with ⟨activity, rest, agenda, rfl⟩
  have ordered := descending.ordered
  rw [agenda] at ordered
  have lessens : Lessens activity { machine with agenda := rest }
      (act { machine with agenda := rest } activity) := by
    refine lessens_act ?_ ordered ?_
    · exact descending.keyed.sound
    · rintro command rfl
      exact descending.undisturbed .refl agenda
  refine ⟨⟨lessens.ordered, keyed, undisturbed⟩, ?_⟩
  have less := lessens.less
  rwa [facing_rest agenda] at less

theorem Descending.ends (descending : machine.Descending) :
    ∃ least last, ∀ limit, least ≤ limit → machine.run? limit = some last :=
  ends_of_descent outstanding Descending.step descending

/-- Whatever a command is, it puts activities on the agenda in order. -/
theorem ordered_first {engine : Engine} {command : Command} {first : Machine}
    (stepped : (start engine command).step? = some first) :
    List.IsChain Activity.Before first.agenda := by
  rcases of_step? stepped with ⟨activity, rest, agenda, rfl⟩
  rcases List.cons.inj agenda with ⟨rfl, rfl⟩
  rcases puts_perform { start engine command with agenda := [] } command with ⟨new, agenda, loose, _⟩
  rw [List.append_nil] at agenda
  show List.IsChain Activity.Before (perform _ command).agenda
  rw [agenda]
  exact (loose .flush).tail

/-! ## Replies -/

/-- What stands behind the first activity on the agenda stays there. -/
theorem step_before {before rest : List Activity} {activity : Activity}
    (stepped : machine.step? = some after) (agenda : machine.agenda = activity :: before ++ rest) :
    ∃ new, after.agenda = new ++ rest := by
  rw [List.cons_append] at agenda
  rcases of_step? stepped with ⟨first, others, head, rfl⟩
  rcases List.cons.inj (agenda.symm.trans head) with ⟨rfl, rfl⟩
  rcases act_agenda { machine with agenda := before ++ rest } activity with ⟨new, added⟩
  exact ⟨new ++ before, by rw [added, List.append_assoc]⟩

/-- To take the outcome of a request is the last thing to do, until it is done. -/
inductive Resolving (machine : Machine) : Prop where
  | resolves {before : List Activity} {id : Nat} (agenda : machine.agenda = before ++ [.resolve id])
  | rechecks {before : List Activity} {id : Nat} (agenda : machine.agenda = before ++ [.recheck id])
  | resolved {outcome : Except Error Outcome} (agenda : machine.agenda = [])
      (reply : machine.reply = .outcome (some outcome))

theorem resolving_rerun (ended : machine.agenda = []) (id : Nat) :
    (machine.next (running ++ [.recheck id])).Resolving := by
  have agenda : (machine.next (running ++ [.recheck id])).agenda = running ++ [.recheck id] := by
    rw [next, ended, List.append_nil]
  exact .rechecks agenda

theorem resolving_resolve (ended : machine.agenda = []) (id : Nat) :
    (machine.resolve id).Resolving := by
  rw [resolve]
  cases held : machine.engine.outcomes.get? id with
  | some outcome =>
      rw [takeOr_of_some _ held]
      exact .resolved ended rfl
  | none =>
      rw [takeOr_of_none _ held]
      exact resolving_rerun ended id

theorem resolving_recheck (ended : machine.agenda = []) (id : Nat) :
    (machine.recheck id).Resolving := by
  rw [recheck]
  cases held : machine.engine.outcomes.get? id with
  | some outcome =>
      rw [takeOr_of_some _ held]
      exact .resolved ended rfl
  | none =>
      rw [takeOr_of_none _ held]
      split
      · exact resolving_rerun ended id
      · exact .resolved ended rfl

theorem Resolving.step (resolving : machine.Resolving) (stepped : machine.step? = some after) :
    after.Resolving := by
  cases resolving with
  | @resolves before id agenda =>
      cases before with
      | cons head before =>
          rcases step_before stepped agenda with ⟨new, agenda⟩
          exact .resolves agenda
      | nil =>
          rcases of_step? stepped with ⟨activity, rest, first, rfl⟩
          rcases List.cons.inj (agenda.symm.trans first) with ⟨rfl, rfl⟩
          exact resolving_resolve rfl id
  | @rechecks before id agenda =>
      cases before with
      | cons head before =>
          rcases step_before stepped agenda with ⟨new, agenda⟩
          exact .rechecks agenda
      | nil =>
          rcases of_step? stepped with ⟨activity, rest, first, rfl⟩
          rcases List.cons.inj (agenda.symm.trans first) with ⟨rfl, rfl⟩
          exact resolving_recheck rfl id
  | resolved agenda reply =>
      rw [step?_of_ended agenda] at stepped
      contradiction

/-- A drain ends with its reply, or goes on. -/
theorem drain_agenda (machine : Machine) (ran : Nat) (failure? : Option Error) :
    ((machine.drain ran failure?).agenda = machine.agenda ∧
        ∃ outcome, (machine.drain ran failure?).reply = .drained outcome) ∨
      ∃ before again other?,
        (machine.drain ran failure?).agenda = before ++ .drain again other? :: machine.agenda := by
  cases failure? with
  | some failure => exact Or.inl ⟨rfl, _, rfl⟩
  | none =>
      cases queue : machine.engine.queue with
      | nil =>
          simp only [drain, queue]
          exact Or.inl ⟨rfl, _, rfl⟩
      | cons task waiting =>
          right
          cases task with
          | routine routine =>
              simp only [drain, queue, runRoutine, next, List.append_assoc]
              exact ⟨_, _, _, rfl⟩
          | unit executor job clock =>
              rw [drain_unit queue, runUnit]
              split
              · exact ⟨[], _, _, rfl⟩
              · dsimp only
                split
                · next answer _ =>
                    refine ⟨job.succeed executor answer ++ [.flush], ran + 1, none, ?_⟩
                    simp only [next, become, List.append_assoc, List.cons_append, List.nil_append]
                · next failure _ =>
                    refine ⟨job.fail executor failure ++ [.flush], ran + 1, job.unhandled? failure, ?_⟩
                    simp only [next, become, List.append_assoc, List.cons_append, List.nil_append]

/-- To drain the queue is the last thing to do, or to flush the feed after that. -/
inductive Draining (machine : Machine) : Prop where
  | drains {before rest : List Activity} {ran : Nat} {failure? : Option Error}
      (agenda : machine.agenda = before ++ .drain ran failure? :: rest)
      (ends : rest = [] ∨ rest = [.afterDrain])
  | drained {outcome : Except Error Nat} (reply : machine.reply = .drained outcome)
      (ends : machine.agenda = [] ∨ machine.agenda = [.afterDrain])
  | flushes {before : List Activity} {ran : Nat}
      (agenda : machine.agenda = before ++ [.answer (.drained (.ok ran))])

theorem Draining.step (draining : machine.Draining) (stepped : machine.step? = some after) :
    after.Draining := by
  cases draining with
  | @drains before rest ran failure? agenda ends =>
      cases before with
      | cons head before =>
          rcases step_before stepped agenda with ⟨new, agenda⟩
          exact .drains agenda ends
      | nil =>
          rcases of_step? stepped with ⟨activity, others, first, rfl⟩
          rcases List.cons.inj (agenda.symm.trans first) with ⟨rfl, rfl⟩
          rcases drain_agenda { machine with agenda := rest } ran failure? with
            ⟨left, outcome, reply⟩ | ⟨before, again, other?, left⟩
          · exact .drained reply (left ▸ ends)
          · exact .drains left ends
  | drained reply ends =>
      rcases ends with agenda | agenda
      · rw [step?_of_ended agenda] at stepped
        contradiction
      · rcases of_step? stepped with ⟨activity, others, first, rfl⟩
        rcases List.cons.inj (agenda.symm.trans first) with ⟨rfl, rfl⟩
        simp only [act, afterDrain]
        split
        · next count _ =>
            have agenda : [Activity.flush, .answer (.drained (.ok count))] ++ [] =
                [.flush] ++ [.answer (.drained (.ok count))] := rfl
            exact .flushes agenda
        · exact .drained reply (Or.inl rfl)
  | @flushes before ran agenda =>
      cases before with
      | cons head before =>
          rcases step_before stepped agenda with ⟨new, agenda⟩
          exact .flushes agenda
      | nil =>
          rcases of_step? stepped with ⟨activity, others, first, rfl⟩
          rcases List.cons.inj (agenda.symm.trans first) with ⟨rfl, rfl⟩
          exact .drained rfl (Or.inl rfl)

theorem Resolving.reply (resolving : machine.Resolving) (ended : machine.agenda = []) :
    ∃ outcome, machine.reply = .outcome (some outcome) := by
  cases resolving with
  | resolved _ reply => exact ⟨_, reply⟩
  | resolves agenda | rechecks agenda => simp [ended] at agenda

theorem Draining.reply (draining : machine.Draining) (ended : machine.agenda = []) :
    ∃ outcome, machine.reply = .drained outcome := by
  cases draining with
  | drained reply _ => exact ⟨_, reply⟩
  | drains agenda _ | flushes agenda => simp [ended] at agenda

end Machine

/-! ## Commands -/

/-- Whether a command drains the queue. -/
def Command.drains : Command → Bool
  | .run | .queue .drain => true
  | _ => false

/-- Whether a command resolves a request: one that a name stands for, or one of its own. -/
def Command.resolves (engine : Engine) : Command → Bool
  | .request (.submit none _ _) => true
  | .request (.resolve name) => (engine.handles name).request?.isSome
  | _ => false

namespace Engine

variable {engine : Engine} {command : Command} {first : Machine}

/-- No command that a callback runs queues anything while the engine carries out a command. -/
def Undisturbed (engine : Engine) (command : Command) : Prop :=
  ∀ {first : Machine}, (Machine.start engine command).step? = some first → first.Undisturbed

theorem draining_first (drains : command.drains)
    (stepped : (Machine.start engine command).step? = some first) : first.Draining := by
  rcases Machine.of_step? stepped with ⟨activity, rest, agenda, rfl⟩
  rcases List.cons.inj agenda with ⟨rfl, rfl⟩
  have first (rest : List Activity) : .drain 0 none :: rest = [] ++ .drain 0 none :: rest := rfl
  cases command with
  | run => exact .drains (first [.afterDrain]) (Or.inr rfl)
  | queue inner =>
      cases inner with
      | drain => exact .drains (first []) (Or.inl rfl)
      | push routine => contradiction
  | _ => contradiction

theorem resolving_first (resolves : command.resolves engine)
    (stepped : (Machine.start engine command).step? = some first) : first.Resolving := by
  rcases Machine.of_step? stepped with ⟨activity, rest, agenda, rfl⟩
  rcases List.cons.inj agenda with ⟨rfl, rfl⟩
  cases command with
  | request inner =>
      cases inner with
      | submit name? table request =>
          cases name? with
          | none => exact .resolves (List.nil_append _).symm
          | some name => contradiction
      | take name => contradiction
      | resolve name =>
          rcases Option.isSome_iff_exists.mp resolves with ⟨id, stands⟩
          simp only [Machine.act, Machine.perform, Machine.performRequest, Machine.start, stands]
          exact .resolves (List.nil_append _).symm
  | _ => contradiction

/--
A command that no callback disturbs comes to its end, whatever has been done to the engine
before, and to the same end in any number of steps that is enough.  If it drains the queue,
it ends with what the drain came to; if it resolves a request, it ends with an outcome.
-/
theorem draining_terminates {name : String} {schema : StoreSchema} {config : Config}
    (reachable : (create name schema config).Reachable engine)
    (undisturbed : engine.Undisturbed command) :
    ∃ least answer, (∀ limit, least ≤ limit → engine.call? limit command = some answer) ∧
      (command.drains → ∃ outcome, answer.1 = .drained outcome) ∧
      (command.resolves engine → ∃ outcome, answer.1 = .outcome (some outcome)) := by
  obtain ⟨first, stepped⟩ : ∃ first, (Machine.start engine command).step? = some first := ⟨_, rfl⟩
  have descending : first.Descending :=
    ⟨Machine.ordered_first stepped, Machine.keyed_step reachable.keyed stepped,
      undisturbed stepped⟩
  rcases descending.ends with ⟨least, last, ends⟩
  have ran := ends least (Nat.le_refl least)
  have ended := Machine.run?_agenda ran
  refine ⟨least + 1, (last.reply, last.log, last.engine), fun limit enough => ?_, ?_, ?_⟩
  · rw [call?, Machine.ends_of_step stepped ends limit enough]
    rfl
  · intro drains
    have draining := draining_first drains stepped
    exact (Machine.run?_preserves Machine.Draining .step draining ran).reply ended
  · intro resolves
    have resolving := resolving_first resolves stepped
    exact (Machine.run?_preserves Machine.Resolving .step resolving ran).reply ended

theorem undisturbed_of_follows {limit : Nat}
    (follows : (Machine.start engine command).step?.all (Machine.onlyAsks limit)) :
    engine.Undisturbed command := by
  intro first stepped
  rw [stepped] at follows
  exact Machine.undisturbed_of_onlyAsks follows

/--
An engine with a batch that is not delivered, a binding that erases a row of three, with a
callback that asks and drains, a unit that will fail, a cache to be filled, and a request.
-/
def busyWithErasing : Engine :=
  [.store .ensureOpen,
    .store (.transact .readWrite "t"
      [⟨.putAll [.ofList [("id", .integer 1)], .ofList [("id", .integer 2)],
        .ofList [("id", .integer 3)]], false⟩]),
    .binding (.create "b" "t"
      { Descriptor.all with erase := true, offset? := some 1, limit? := some 1 }),
    .binding (.subscribe "b" ⟨"seen", [.inquire .queue, .run], 2⟩),
    .executor (.run none "u" .readOnly [] false ⟨"done", [], 0⟩ false),
    .cache (.create "c" "t" none), .cache (.track "c" [.integer 1]), .cache (.fetch "c"),
    .request (.submit (some "r") "t" (.put (.ofList [("id", .integer 4)])))].foldl
      (afterCall 30) (create "s" ⟨1, [⟨"t", "id", false, []⟩]⟩ .standard)

/-- The queue is drained, and the request resolved, though another unit fails. -/
theorem draining_terminates_while_erasing :
    (create "s" ⟨1, [⟨"t", "id", false, []⟩]⟩ .standard).Reachable busyWithErasing ∧
      (busyWithErasing.Undisturbed .run ∧ ∃ least answer,
        (∀ limit, least ≤ limit → busyWithErasing.call? limit .run = some answer) ∧
          ∃ outcome, answer.1 = .drained outcome) ∧
      busyWithErasing.Undisturbed (.request (.resolve "r")) ∧ ∃ least answer,
        (∀ limit, least ≤ limit →
          busyWithErasing.call? limit (.request (.resolve "r")) = some answer) ∧
          ∃ outcome, answer.1 = .outcome (some outcome) := by
  have reachable :
      (create "s" ⟨1, [⟨"t", "id", false, []⟩]⟩ .standard).Reachable busyWithErasing := by
    rw [busyWithErasing]
    exact Reachable.start.afterCalls 30 _
  have verdict :
      (Machine.start busyWithErasing .run).step?.all (Machine.onlyAsks 150) ∧
        (Machine.start busyWithErasing (.request (.resolve "r"))).step?.all
          (Machine.onlyAsks 150) ∧
        Command.resolves busyWithErasing (.request (.resolve "r")) := by
    decide +kernel
  have draining : busyWithErasing.Undisturbed .run := undisturbed_of_follows verdict.1
  have resolving : busyWithErasing.Undisturbed (.request (.resolve "r")) :=
    undisturbed_of_follows verdict.2.1
  rcases draining_terminates reachable draining with ⟨least, answer, ends, replies, _⟩
  rcases draining_terminates reachable resolving with ⟨later, outcome, endsLater, _, resolves⟩
  exact ⟨reachable, ⟨draining, least, answer, ends, replies rfl⟩,
    resolving, later, outcome, endsLater, resolves verdict.2.2⟩

end Engine

end LiveTable
