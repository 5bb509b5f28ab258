import LiveTable.Proofs.Engine.Courses
import LiveTable.Proofs.Engine.Membership

/-!
# Dispatches

A registry that dispatches a batch visits the tables that the batch touches, each once, in the
order in which they first appear.  On each visit it alerts the watchers that the table has
then, in the order in which they came, and whoever of them is a callback is called with the
table.

The callbacks may subscribe, unsubscribe and clear meanwhile: who leaves a table during the
visit is called all the same, who comes is not, and who moves to a table that is yet to be
visited is called there again.  A `Discipline` says what callbacks may do and what that keeps
of the registry.  Under any discipline the dispatch comes to its end and does nothing else.
-/

set_option autoImplicit false

namespace LiveTable

/-! ## Tables in the order of their first appearance -/

namespace Machine

/-- Of two touched tables the one comes first that first appears before the other. -/
theorem touchedAfter_pairwise (seen : List String) (batch : List Change) :
    (touchedAfter seen batch).Pairwise fun first second =>
      (batch.map Change.table).idxOf first < (batch.map Change.table).idxOf second := by
  induction batch generalizing seen with
  | nil => exact .nil
  | cons change rest ih =>
      -- No table behind the first one is that one, so all their places move by one.
      have behind {tables : List String} (other : ∀ table ∈ tables, table ≠ change.table)
          (ordered : tables.Pairwise fun first second =>
            (rest.map Change.table).idxOf first < (rest.map Change.table).idxOf second) :
          tables.Pairwise fun first second =>
            ((change :: rest).map Change.table).idxOf first <
              ((change :: rest).map Change.table).idxOf second := by
        refine ordered.imp_of_mem fun {first second} inFirst inSecond before => ?_
        rw [List.map_cons, List.idxOf_cons_ne _ (other first inFirst).symm,
          List.idxOf_cons_ne _ (other second inSecond).symm]
        exact Nat.succ_lt_succ before
      rw [touchedAfter]
      split
      · next before =>
          refine behind ?_ (ih seen)
          rintro table member rfl
          exact (mem_touchedAfter_iff.mp member).2 (List.contains_iff_mem.mp before)
      · have other : ∀ table ∈ touchedAfter (change.table :: seen) rest, table ≠ change.table := by
          rintro table member rfl
          exact (mem_touchedAfter_iff.mp member).2 List.mem_cons_self
        refine List.pairwise_cons.mpr ⟨?_, behind other (ih _)⟩
        intro table member
        rw [List.map_cons, List.idxOf_cons_self, List.idxOf_cons_ne _ (other table member).symm]
        exact Nat.succ_pos _

end Machine

/-! ## What is done for watchers -/

/-- The watchers of a table in the registry of a generation, as long as that is there. -/
def Engine.entriesOf (engine : Engine) (generation : Nat) (table : String) :
    List (Nat × Watcher) :=
  (engine.registryOf? generation).elim [] (·.entriesOf table)

/-- One thing that is done for those who watch. -/
inductive Service where
  /-- A table is visited, where it has these watchers. -/
  | visit (table : String) (entries : List (Nat × Watcher))
  | alert (watcher : Watcher) (table : String)
  | call (callback : Callback) (notice : Notice)

/-- What an activity does for those who watch. -/
def Activity.service? (engine : Engine) : Activity → Option Service
  | .visit generation table => some (.visit table (engine.entriesOf generation table))
  | .alert watcher table => some (.alert watcher table)
  | .call callback notice => some (.call callback notice)
  | _ => none

/-- What the next step does for those who watch. -/
def Machine.service? (machine : Machine) : Option Service :=
  machine.agenda.head?.bind (Activity.service? machine.engine)

/-- What alerting a watcher comes to: whoever is a callback is called with the table. -/
def Watcher.services (table : String) (watcher : Watcher) : List Service :=
  match watcher with
  | .callback target => [.alert watcher table, .call target (.table table)]
  | .binding _ | .cache _ => [.alert watcher table]

/-- A table with the watchers that it had when its turn began. -/
structure Visit where
  table : String
  entries : List (Nat × Watcher)

/-- What a visit comes to: every watcher is alerted, in this order. -/
def Visit.services (visit : Visit) : List Service :=
  .visit visit.table visit.entries ::
    visit.entries.flatMap fun entry => entry.2.services visit.table

/-! ## What callbacks may do -/

/-- A watcher does nothing but what is allowed: if it is a callback, on every call. -/
def Watcher.Heeds (allows : Command → Prop) (watcher : Watcher) : Prop :=
  ∀ callback, watcher = .callback callback → ∀ command ∈ callback.reaction.commands, allows command

/--
What callbacks may do while the registry of a generation dispatches, and what that keeps of
the registry.  Nothing that is allowed puts anything on the agenda, and whoever watches
heeds it.
-/
structure Discipline (generation : Nat) where
  Allows : Command → Prop
  Keeps : Option (Registry Watcher) → Prop
  perform {machine : Machine} {command : Command} (allowed : Allows command)
    (keeps : Keeps (machine.engine.registryOf? generation)) :
    (machine.perform command).agenda = machine.agenda ∧
      Keeps ((machine.perform command).engine.registryOf? generation)
  heeds {registry : Registry Watcher} (keeps : Keeps (some registry)) {table : String}
    {entry : Nat × Watcher} (listed : entry ∈ registry.entriesOf table) : entry.2.Heeds Allows

namespace Engine

variable (engine : Engine) (generation : Nat)

theorem registryOf?_schedule (executor : Nat) (job : Job) :
    (engine.schedule executor job).2.registryOf? generation = engine.registryOf? generation := by
  rw [schedule]
  split <;> rfl

theorem registryOf?_requestBinding (id : Nat) :
    (engine.requestBinding id).2.registryOf? generation = engine.registryOf? generation := by
  rw [requestBinding]
  split
  · split
    · rfl
    · exact engine.registryOf?_schedule generation id .binding
  · rfl

theorem registryOf?_requestCache (id : Nat) :
    (engine.requestCache id).2.registryOf? generation = engine.registryOf? generation := by
  rw [requestCache]
  split
  · split
    · rfl
    · exact engine.registryOf?_schedule generation id .cache
  · rfl

end Engine

namespace Machine

variable {generation : Nat} (discipline : Discipline generation)

/--
A machine comes to have done what stood before the rest of its agenda, which it did not
touch, and this is what it did for those who watch.
-/
structure Passes (rest : List Activity) (machine : Machine) (services : List Service)
    (after : Machine) (past : List Machine) : Prop where
  leads : machine.Leads after past
  ends : after.agenda = rest
  within : ∀ passed ∈ past, ∃ own, own ≠ [] ∧ passed.agenda = own ++ rest
  keeps : discipline.Keeps (after.engine.registryOf? generation)
  served : gather service? past = services

/-- A machine comes to this at some time. -/
def Comes (rest : List Activity) (machine : Machine) (services : List Service) : Prop :=
  ∃ after past, machine.Passes discipline rest services after past

variable {discipline} {machine : Machine} {rest more : List Activity} {activity : Activity}
  {services further : List Service}

namespace Comes

theorem refl (agenda : machine.agenda = rest)
    (keeps : discipline.Keeps (machine.engine.registryOf? generation)) :
    machine.Comes discipline rest [] := by
  refine ⟨machine, [], .refl, agenda, ?_, keeps, gather_nil service?⟩
  exact fun passed none => absurd none List.not_mem_nil

/-- What stands first is done in one step, and then what stood or was put before the rest. -/
theorem first (more : List Activity) (agenda : machine.agenda = activity :: (more ++ rest))
    (comes : (act { machine with agenda := more ++ rest } activity).Comes discipline rest services) :
    machine.Comes discipline rest ((activity.service? machine.engine).toList ++ services) := by
  rcases comes with ⟨after, past, leads, ends, within, keeps, served⟩
  have stepped : machine.step? = some (act { machine with agenda := more ++ rest } activity) := by
    rw [step?, agenda]
  refine ⟨after, past ++ [machine], (Leads.refl.next (.step stepped)).append leads, ends, ?_,
    keeps, ?_⟩
  · intro passed member
    rcases List.mem_append.mp member with later | here
    · exact within passed later
    · rw [List.mem_singleton.mp here]
      exact ⟨activity :: more, List.cons_ne_nil activity more, agenda⟩
  · rw [gather_append, served, gather_cons, gather_nil, List.nil_append, service?, agenda]
    rfl

end Comes

/-- One thing is done after the other. -/
theorem Passes.trans {middle : Machine} {past : List Machine}
    (early : machine.Passes discipline (more ++ rest) services middle past)
    (late : middle.Comes discipline rest further) :
    machine.Comes discipline rest (services ++ further) := by
  rcases early with ⟨leads, _, within, _, rfl⟩
  rcases late with ⟨after, since, onwards, ends, inside, keeps, rfl⟩
  refine ⟨after, since ++ past, leads.append onwards, ends, ?_, keeps, gather_append ..⟩
  intro passed member
  rcases List.mem_append.mp member with later | before
  · exact inside passed later
  · rcases within passed before with ⟨own, some, agenda⟩
    refine ⟨own ++ more, List.append_ne_nil_of_left_ne_nil some more, ?_⟩
    rw [agenda, List.append_assoc]

/-! ## Callbacks and alerts -/

variable {callback : Callback} {notice : Notice} {watcher : Watcher} {table : String}

/-- The commands of a callback are carried out one after the other, and nothing else. -/
theorem comes_script {reaction : Reaction Command}
    (heeds : ∀ command ∈ reaction.commands, discipline.Allows command)
    (agenda : machine.agenda = reaction.script ++ rest)
    (keeps : discipline.Keeps (machine.engine.registryOf? generation)) :
    machine.Comes discipline rest [] := by
  rcases reaction with ⟨label, commands, times⟩
  simp only [Reaction.script] at heeds agenda
  induction commands generalizing machine with
  | nil => exact .refl agenda keeps
  | cons command later ih =>
      rw [List.forall_mem_cons] at heeds
      let script := Reaction.script ⟨label, later, times⟩
      let begun : Machine := { machine with agenda := .note label :: script ++ rest }
      have performed : (begun.perform command).agenda = begun.agenda ∧
          discipline.Keeps ((begun.perform command).engine.registryOf? generation) :=
        discipline.perform heeds.1 keeps
      rcases performed with ⟨onwards, kept⟩
      exact .first (.note label :: script) agenda
        (.first script onwards (ih kept heeds.2 rfl))

/-- A callback is called, and then does what it is allowed to do. -/
theorem comes_call (heeds : ∀ command ∈ callback.reaction.commands, discipline.Allows command)
    (agenda : machine.agenda = .call callback notice :: rest)
    (keeps : discipline.Keeps (machine.engine.registryOf? generation)) :
    machine.Comes discipline rest [.call callback notice] := by
  have called : (Machine.call { machine with agenda := rest } callback notice).Comes discipline
      rest [] := by
    rw [Machine.call]
    split
    · exact comes_script heeds rfl keeps
    · exact .refl rfl keeps
  exact .first [] agenda called

/-- A watcher is alerted, and called if it is a callback. -/
theorem comes_alert (heeds : watcher.Heeds discipline.Allows)
    (agenda : machine.agenda = .alert watcher table :: rest)
    (keeps : discipline.Keeps (machine.engine.registryOf? generation)) :
    machine.Comes discipline rest (watcher.services table) := by
  let begun : Machine := { machine with agenda := rest }
  cases watcher with
  | callback target =>
      have called : (begun.next [.call target (.table table)]).Comes discipline rest
          [.call target (.table table)] := comes_call (heeds target rfl) rfl keeps
      exact .first [] agenda called
  | binding id =>
      have asked : (begun.become (machine.engine.requestBinding id).2).Comes discipline rest [] :=
        .refl rfl (by rwa [Machine.become, Engine.registryOf?_requestBinding])
      exact .first [] agenda asked
  | cache id =>
      have asked : (begun.become (machine.engine.requestCache id).2).Comes discipline rest [] :=
        .refl rfl (by rwa [Machine.become, Engine.registryOf?_requestCache])
      exact .first [] agenda asked

/-- The watchers of a table are alerted one after the other. -/
theorem comes_alerts {entries : List (Nat × Watcher)}
    (heeds : ∀ entry ∈ entries, entry.2.Heeds discipline.Allows)
    (agenda : machine.agenda = (entries.map Prod.snd).map (.alert · table) ++ rest)
    (keeps : discipline.Keeps (machine.engine.registryOf? generation)) :
    machine.Comes discipline rest (entries.flatMap fun entry => entry.2.services table) := by
  induction entries generalizing machine with
  | nil => exact .refl agenda keeps
  | cons entry later ih =>
      rw [List.forall_mem_cons] at heeds
      rcases comes_alert heeds.1 agenda keeps with ⟨middle, past, passes⟩
      exact passes.trans (ih heeds.2 passes.ends passes.keeps)

/-- A table is visited: all watchers that it has then are served, whatever they do. -/
theorem comes_visit (agenda : machine.agenda = .visit generation table :: rest)
    (keeps : discipline.Keeps (machine.engine.registryOf? generation)) :
    machine.Comes discipline rest
      (Visit.services ⟨table, machine.engine.entriesOf generation table⟩) := by
  refine .first [] agenda ?_
  show (Machine.visit { machine with agenda := rest } generation table).Comes discipline rest _
  -- The watchers of this moment are on the agenda, whatever becomes of the registry.
  simp only [Machine.visit, Engine.entriesOf]
  cases found : machine.engine.registryOf? generation with
  | none => exact .refl rfl keeps
  | some registry =>
      have heeds {entry : Nat × Watcher} (listed : entry ∈ registry.entriesOf table) :
          entry.2.Heeds discipline.Allows := discipline.heeds (found ▸ keeps) listed
      exact comes_alerts (fun entry listed => heeds listed) rfl keeps

end Machine

/-- A visit shows the watchers of its table in a registry that was kept. -/
def Visit.Shows (keeps : Option (Registry Watcher) → Prop) (visit : Visit) : Prop :=
  ∃ held?, keeps held? ∧ visit.entries = held?.elim [] (·.entriesOf visit.table)

namespace Machine

variable {generation : Nat} {discipline : Discipline generation} {machine : Machine}
  {rest : List Activity}

/-- Tables are visited one after the other. -/
theorem comes_visits {tables : List String}
    (agenda : machine.agenda = tables.map (.visit generation ·) ++ rest)
    (keeps : discipline.Keeps (machine.engine.registryOf? generation)) :
    ∃ visits : List Visit, visits.map Visit.table = tables ∧
      (∀ visit ∈ visits, visit.Shows discipline.Keeps) ∧
      machine.Comes discipline rest (visits.flatMap Visit.services) := by
  induction tables generalizing machine with
  | nil => exact ⟨[], rfl, nofun, .refl agenda keeps⟩
  | cons table later ih =>
      rcases comes_visit agenda keeps with ⟨middle, past, passes⟩
      rcases ih passes.ends passes.keeps with ⟨visits, rfl, shown, comes⟩
      let visit : Visit := ⟨table, machine.engine.entriesOf generation table⟩
      refine ⟨visit :: visits, rfl, List.forall_mem_cons.mpr ⟨⟨_, keeps, rfl⟩, shown⟩, ?_⟩
      exact passes.trans comes

/-- A batch is dispatched: the tables that it touches are visited. -/
theorem comes_dispatch {batch : List Change}
    (agenda : machine.agenda = .dispatch generation batch :: rest)
    (keeps : discipline.Keeps (machine.engine.registryOf? generation)) :
    ∃ visits : List Visit, visits.map Visit.table = touchedAfter [] batch ∧
      (∀ visit ∈ visits, visit.Shows discipline.Keeps) ∧
      machine.Comes discipline rest (visits.flatMap Visit.services) := by
  let begun : Machine := { machine with agenda := rest }
  have visiting : (begun.dispatch generation batch).agenda =
      (touchedAfter [] batch).map (.visit generation ·) ++ rest := rfl
  rcases comes_visits visiting keeps with ⟨visits, tables, shown, comes⟩
  exact ⟨visits, tables, shown, .first [] agenda comes⟩

end Machine

/-! ## Disciplines -/

/-- A command puts nothing on the agenda and leaves all registries as they are. -/
def Command.IsAside (command : Command) : Prop :=
  ∀ machine : Machine, (machine.perform command).agenda = machine.agenda ∧
    ∀ generation, (machine.perform command).engine.registryOf? generation =
      machine.engine.registryOf? generation

/--
A command subscribes, unsubscribes or clears, or has nothing to do with watchers; and so do
all commands of the callbacks that it subscribes.
-/
inductive Command.Enrols : Command → Prop where
  | watch (id : Nat) (table : String) {reaction : Reaction Command}
      (enrols : ∀ command ∈ reaction.commands, Enrols command) :
      Enrols (.registry (.watch id table reaction))
  | leave (id : Nat) : Enrols (.registry (.leave id))
  | clear : Enrols (.registry .clear)
  | create (name table : String) {reaction : Reaction Command}
      (enrols : ∀ command ∈ reaction.commands, Enrols command) :
      Enrols (.watch (.create name table reaction))
  | stop (name : String) : Enrols (.watch (.stop name))
  | aside {command : Command} (aside : command.IsAside) : Enrols command

/-- The maps of a registry agree, and its callbacks do nothing with watchers but enrol them. -/
structure Registry.Enrolling (registry : Registry Watcher) : Prop where
  coherent : registry.Coherent
  heeds {table : String} {entry : Nat × Watcher} (listed : entry ∈ registry.entriesOf table) :
    entry.2.Heeds Command.Enrols

namespace Registry.Enrolling

variable {registry : Registry Watcher}

theorem empty : (Registry.empty : Registry Watcher).Enrolling where
  coherent := empty_coherent
  heeds listed := absurd listed List.not_mem_nil

theorem remove (enrolling : registry.Enrolling) (id : Nat) : (registry.remove id).Enrolling where
  coherent := enrolling.coherent.remove id
  heeds listed := enrolling.heeds (of_mem_entriesOf_remove listed)

theorem watch (enrolling : registry.Enrolling) (id : Nat) (table : String) {callback : Callback}
    (enrols : ∀ command ∈ callback.reaction.commands, command.Enrols) :
    (registry.watch id table (.callback callback)).Enrolling where
  coherent := enrolling.coherent.watch id table _
  heeds listed := by
    rcases of_mem_entriesOf_watch listed with rfl | former
    · rintro _ ⟨⟩
      exact enrols
    · exact enrolling.heeds former

end Registry.Enrolling

namespace Engine

variable {engine : Engine} {generation : Nat}

/-- The registry of a generation, as long as it is there, enrols watchers only. -/
def Enrolling (generation : Nat) (engine : Engine) : Prop :=
  ∀ registry, engine.registryOf? generation = some registry → registry.Enrolling

/-- Changing the present registry leaves the others as they are. -/
theorem Enrolling.change {after : Engine} (enrolling : engine.Enrolling generation)
    (sameGeneration : after.generation = engine.generation) (sameFormer : after.former = engine.former)
    (changed : engine.registry.Enrolling → after.registry.Enrolling) :
    after.Enrolling generation := by
  intro registry found
  rw [Enrolling] at enrolling
  rw [registryOf?, sameGeneration, sameFormer] at found
  rw [registryOf?] at enrolling
  split at found
  · next present =>
      rw [← Option.some.inj found]
      rw [if_pos present] at enrolling
      exact changed (enrolling _ rfl)
  · next former =>
      rw [if_neg former] at enrolling
      exact enrolling registry found

theorem Enrolling.leave (enrolling : engine.Enrolling generation) (id : Nat) :
    (engine.leave id).Enrolling generation :=
  enrolling.change rfl rfl fun present => present.remove id

theorem Enrolling.watch (enrolling : engine.Enrolling generation) (id : Nat) (table : String)
    {callback : Callback} (enrols : ∀ command ∈ callback.reaction.commands, command.Enrols) :
    (engine.watch id table (.callback callback)).Enrolling generation := by
  obtain ⟨_, _, _, _, registry, sameGeneration, _, former, _⟩ := engine.attach_frame
  refine enrolling.change sameGeneration former fun present => ?_
  show (engine.attach.registry.watch id table (.callback callback)).Enrolling
  rw [registry]
  exact present.watch id table enrols

/-- A number of a callback that is given out changes no registry. -/
theorem Enrolling.register (enrolling : engine.Enrolling generation)
    (reaction : Reaction Command) : (engine.register reaction).2.Enrolling generation :=
  enrolling

end Engine

namespace Machine

variable {machine : Machine} {generation : Nat}

/-- Commands that enrol watchers put nothing on the agenda, and registries go on enrolling. -/
theorem perform_enrols {command : Command} (enrols : command.Enrols)
    (enrolling : machine.engine.Enrolling generation) :
    (machine.perform command).agenda = machine.agenda ∧
      (machine.perform command).engine.Enrolling generation := by
  cases enrols with
  | @watch id table reaction enrols =>
      exact ⟨rfl, (enrolling.register reaction).watch id table enrols⟩
  | leave id => exact ⟨rfl, enrolling.leave id⟩
  | clear => exact ⟨rfl, enrolling.change rfl rfl fun _ => .empty⟩
  | @create name table reaction enrols =>
      let callback : Callback := ⟨machine.engine.nextId, reaction⟩
      let registered : Engine := (machine.engine.register reaction).2
      have watching : (registered.watch callback.id table (.callback callback)).Enrolling
          generation := (enrolling.register reaction).watch callback.id table enrols
      refine ⟨rfl, ?_⟩
      simp only [perform, performWatch, conclude]
      cases (machine.engine.handles name).watch? with
      | none => exact watching
      | some former =>
          exact Engine.Enrolling.leave (Engine.Enrolling.change watching rfl rfl id) former
  | stop name =>
      simp only [perform, performWatch]
      split
      · exact ⟨rfl, enrolling⟩
      · next id _ => exact ⟨rfl, enrolling.leave id⟩
  | aside aside =>
      refine ⟨(aside machine).1, ?_⟩
      rw [Engine.Enrolling, (aside machine).2]
      exact enrolling

end Machine

namespace Discipline

/-- Callbacks subscribe, unsubscribe and clear. -/
def enrolling (generation : Nat) : Discipline generation where
  Allows := Command.Enrols
  Keeps held? := ∀ registry, held? = some registry → registry.Enrolling
  perform allowed keeps := Machine.perform_enrols allowed keeps
  heeds keeps _ _ listed := (keeps _ rfl).heeds listed

/-- Callbacks have nothing to do with watchers, so a registry stays as it is. -/
def aside (generation : Nat) {registry : Registry Watcher}
    (heeds : ∀ table, ∀ entry ∈ registry.entriesOf table, entry.2.Heeds Command.IsAside) :
    Discipline generation where
  Allows := Command.IsAside
  Keeps held? := held? = some registry
  perform {machine _} aside keeps := ⟨(aside machine).1, (aside machine).2 generation ▸ keeps⟩
  heeds same table entry listed := heeds table entry (Option.some.inj same ▸ listed)

end Discipline

/-! ## Dispatching a batch -/

/-- The ids of the watchers that a visit serves. -/
def Visit.ids (visit : Visit) : List Nat :=
  visit.entries.map Prod.fst

/-- Visits of different tables in one registry serve every id of those tables once. -/
theorem Registry.Coherent.count_ids {registry : Registry Watcher} (coherent : registry.Coherent)
    {visits : List Visit} (different : (visits.map Visit.table).Nodup)
    (present : ∀ visit ∈ visits, visit.entries = registry.entriesOf visit.table) (id : Nat) :
    (visits.flatMap Visit.ids).count id =
      if ∃ table ∈ visits.map Visit.table, registry.tableOf? id = some table then 1 else 0 := by
  have ids {visit : Visit} (member : visit ∈ visits) : visit.ids = registry.idsOf visit.table := by
    rw [Visit.ids, present visit member, Registry.idsOf]
  have once : (visits.flatMap Visit.ids).Nodup := by
    rw [List.nodup_flatMap]
    refine ⟨fun visit member => ids member ▸ coherent.once visit.table, ?_⟩
    refine (List.pairwise_map.mp different).imp_of_mem ?_
    intro first second inFirst inSecond apart id listedFirst listedSecond
    rw [ids inFirst] at listedFirst
    rw [ids inSecond] at listedSecond
    exact apart (coherent.eq_of_mem_idsOf listedFirst listedSecond)
  have served : id ∈ visits.flatMap Visit.ids ↔
      ∃ table ∈ visits.map Visit.table, registry.tableOf? id = some table := by
    simp only [List.mem_flatMap, List.mem_map, exists_exists_and_eq_and]
    refine exists_congr fun visit => and_congr_right fun member => ?_
    rw [ids member, coherent.listed]
  simp only [once.count, served]

namespace Machine

/--
How a batch is dispatched: visit by visit something is done for those who watch, until only
the rest of the agenda is left.
-/
structure Dispatches (batch : List Change) (rest : List Activity) (machine : Machine)
    (visits : List Visit) (after : Machine) (past : List Machine) : Prop where
  leads : machine.Leads after past
  ends : after.agenda = rest
  /-- Until then the rest is not touched. -/
  within : ∀ passed ∈ past, ∃ own, own ≠ [] ∧ passed.agenda = own ++ rest
  /-- The watchers of each visit are served in order, and nobody else is. -/
  served : gather service? past = visits.flatMap Visit.services
  touched (table : String) :
    table ∈ visits.map Visit.table ↔ table ∈ batch.map Change.table
  /-- The tables are visited in the order of their first appearance, so each once. -/
  ordered : (visits.map Visit.table).Pairwise fun first second =>
    (batch.map Change.table).idxOf first < (batch.map Change.table).idxOf second
  once : ∀ visit ∈ visits, visit.ids.Nodup

variable {machine : Machine} {generation : Nat} {batch : List Change} {rest : List Activity}
  {registry : Registry Watcher}

/-- Under a discipline that keeps registries coherent a batch is dispatched. -/
theorem dispatches_of_discipline (discipline : Discipline generation)
    (coherent : ∀ registry, discipline.Keeps (some registry) → registry.Coherent)
    (agenda : machine.agenda = .dispatch generation batch :: rest)
    (keeps : discipline.Keeps (machine.engine.registryOf? generation)) :
    ∃ visits after past, machine.Dispatches batch rest visits after past ∧
      ∀ visit ∈ visits, visit.Shows discipline.Keeps := by
  rcases comes_dispatch agenda keeps with ⟨visits, tables, shown, after, past, passes⟩
  refine ⟨visits, after, past, ⟨passes.leads, passes.ends, passes.within, passes.served, ?_, ?_,
    ?_⟩, shown⟩
  · intro table
    rw [tables, mem_touchedAfter_iff]
    simp
  · rw [tables]
    exact touchedAfter_pairwise [] batch
  · intro visit member
    rcases shown visit member with ⟨held?, keeps, entries⟩
    rw [Visit.ids, entries]
    cases held? with
    | none => exact List.nodup_nil
    | some registry => exact (coherent registry keeps).once visit.table

/--
A dispatch visits the tables that the batch touches, each once, in the order of their first
appearance.  On each visit the watchers that are registered on the table when its turn
begins are alerted, each once, in the order in which they came, and those that are
callbacks are called with the table, whatever the callbacks subscribe, unsubscribe and clear
meanwhile.  If they leave the registry alone, every id that watches a touched table is served
exactly once, and no other.
-/
theorem dispatch_serves_watchers (agenda : machine.agenda = .dispatch generation batch :: rest)
    (present : machine.engine.registryOf? generation = some registry)
    (enrolling : registry.Enrolling) :
    ∃ visits after past, machine.Dispatches batch rest visits after past ∧
      ((∀ table, ∀ entry ∈ registry.entriesOf table, entry.2.Heeds Command.IsAside) →
        (∀ visit ∈ visits, visit.entries = registry.entriesOf visit.table) ∧
        ∀ id, (visits.flatMap Visit.ids).count id =
          if ∃ table ∈ batch.map Change.table, registry.tableOf? id = some table then 1 else 0) := by
  by_cases quiet : ∀ table, ∀ entry ∈ registry.entriesOf table, entry.2.Heeds Command.IsAside
  · have coherent (kept : Registry Watcher) (same : some kept = some registry) : kept.Coherent :=
      Option.some.inj same ▸ enrolling.coherent
    rcases dispatches_of_discipline (.aside generation quiet) coherent agenda present with
      ⟨visits, after, past, dispatches, shown⟩
    have entries : ∀ visit ∈ visits, visit.entries = registry.entriesOf visit.table := by
      intro visit member
      rcases shown visit member with ⟨_, rfl, same⟩
      exact same
    refine ⟨visits, after, past, dispatches, fun _ => ⟨entries, fun id => ?_⟩⟩
    have different : (visits.map Visit.table).Nodup :=
      dispatches.ordered.imp fun {first second} before same => by
        rw [same] at before
        exact Nat.lt_irrefl _ before
    rw [enrolling.coherent.count_ids different entries]
    simp only [dispatches.touched]
  · have keeps : (Discipline.enrolling generation).Keeps
        (machine.engine.registryOf? generation) := by
      rintro kept found
      rw [present] at found
      exact Option.some.inj found ▸ enrolling
    rcases dispatches_of_discipline (.enrolling generation)
      (fun kept keeps => (keeps kept rfl).coherent) agenda keeps with
      ⟨visits, after, past, dispatches, _⟩
    exact ⟨visits, after, past, dispatches, fun aside => absurd aside quiet⟩

/--
The first of two watchers moves to a table whose turn is yet to come and lets the second one
leave, each of them during the turn of the table that both watch.
-/
theorem dispatch_serves_movers :
    let silent : Reaction Command := ⟨"r", [], 0⟩
    let moving : Reaction Command :=
      ⟨"m", [.registry (.watch 7 "u" silent), .registry (.leave 8)], 1⟩
    let registry : Registry Watcher :=
      (Registry.empty.watch 7 "t" (.callback ⟨1, moving⟩)).watch 8 "t" (.callback ⟨2, silent⟩)
    let batch : List Change := ["t", "u", "t"].map fun table => ⟨table, .integer 1, none, none⟩
    let engine : Engine :=
      { Engine.create "s" ⟨1, []⟩ .standard with registry := registry, nextId := 3 }
    let machine : Machine := ⟨engine, [.dispatch 0 batch], .nothing, []⟩
    engine.registryOf? 0 = some registry ∧ registry.Enrolling ∧
      ∃ visits after past, machine.Dispatches batch [] visits after past := by
  intro silent moving registry batch engine machine
  have nothing : ∀ command ∈ silent.commands, command.Enrols :=
    fun command none => absurd none List.not_mem_nil
  have moves : ∀ command ∈ moving.commands, command.Enrols :=
    List.forall_mem_cons.mpr ⟨.watch 7 "u" nothing, List.forall_mem_singleton.mpr (.leave 8)⟩
  have enrolling : registry.Enrolling :=
    (Registry.Enrolling.empty.watch 7 "t" moves).watch 8 "t" nothing
  have present : engine.registryOf? 0 = some registry := if_pos rfl
  have agenda : machine.agenda = [.dispatch 0 batch] := rfl
  rcases dispatch_serves_watchers agenda present enrolling with
    ⟨visits, after, past, dispatches, _⟩
  exact ⟨present, enrolling, visits, after, past, dispatches⟩

end Machine

end LiveTable
