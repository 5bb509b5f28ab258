import LiveTable.Proofs.Query.Congruence
import LiveTable.Proofs.Table.Tidy

/-!
# What a descriptor is refused for

A plan is built while the clauses are visited, and a clause can be faulty: it compares a
field, and its operator is not known or does not take its operand.  A plan is refused for
the first faulty clause in the order own comparison, `or` list, `and` list, and for nothing
else.  Neither the schema matters, nor how the clauses are joined, nor what has been built
so far, nor what any test would answer.

So a descriptor is refused before a row is looked at.  A descriptor that is not refused
fails only where it would erase rows and the transaction must not write.
-/

set_option autoImplicit false

namespace LiveTable

namespace Clause

/-! ## Faulty clauses -/

/-- The field that a clause compares; a clause with a test compares none. -/
def comparedField? (clause : Clause) : Option String :=
  match clause.test? with
  | some _ => none
  | none => clause.fieldName?

/-- A clause compares a field by an operator that is not known, or that rejects the operand. -/
inductive Faulty (clause : Clause) : Error → Prop where
  | operator (compares : clause.comparedField?.isSome)
      (unknown : Operator.ofName? clause.operator = none) :
      Faulty clause (.invalidOperator clause.operator)
  | operand (compares : clause.comparedField?.isSome) {operator : Operator}
      (known : Operator.ofName? clause.operator = some operator) {fault : OperandFault}
      (rejected : operator.conditionOn (Operand.coerce clause.value?) = .error fault) :
      Faulty clause (.invalidOperand operator.name fault.message)

/-- The first faulty clause of a list is faulty in this way. -/
inductive FirstFault : List Clause → Error → Prop where
  | here {clause : Clause} {error : Error} (faulty : clause.Faulty error)
      (rest : List Clause) : FirstFault (clause :: rest) error
  | later {clause : Clause} {rest : List Clause} {error : Error}
      (sound : ∀ other, ¬ clause.Faulty other) (first : FirstFault rest error) :
      FirstFault (clause :: rest) error

variable {clause : Clause} {first second : List Clause} {error : Error}

theorem not_firstFault_nil (error : Error) : ¬ FirstFault [] error :=
  nofun

/-- The first fault of a list is that of its first clause, unless that one is sound. -/
theorem firstFault_cons {rest : List Clause} :
    FirstFault (clause :: rest) error ↔
      clause.Faulty error ∨ (∀ other, ¬ clause.Faulty other) ∧ FirstFault rest error := by
  constructor
  · intro faulted
    cases faulted with
    | here faulty => exact .inl faulty
    | later sound first => exact .inr ⟨sound, first⟩
  · rintro (faulty | ⟨sound, first⟩)
    · exact .here faulty rest
    · exact .later sound first

theorem firstFault_singleton : FirstFault [clause] error ↔ clause.Faulty error := by
  simp [firstFault_cons, not_firstFault_nil]

/-- The first fault of two lists is that of the first one, unless all of that is sound. -/
theorem firstFault_append :
    FirstFault (first ++ second) error ↔
      FirstFault first error ∨ (∀ other, ¬ FirstFault first other) ∧ FirstFault second error := by
  induction first with
  | nil => simp [not_firstFault_nil]
  | cons clause rest ih =>
      have sound : (∀ other, ¬ FirstFault (clause :: rest) other) ↔
          (∀ other, ¬ clause.Faulty other) ∧ ∀ other, ¬ FirstFault rest other := by
        simp only [firstFault_cons, not_or, not_and, forall_and]
        exact ⟨fun ⟨here, later⟩ => ⟨here, fun other => later other here⟩,
          fun ⟨here, later⟩ => ⟨here, fun other _ => later other⟩⟩
      rw [List.cons_append, firstFault_cons, ih, sound, firstFault_cons]
      tauto

/-- A list has a first fault exactly if one of its clauses is faulty. -/
theorem exists_firstFault_iff {clauses : List Clause} :
    (∃ error, FirstFault clauses error) ↔ ∃ clause ∈ clauses, ∃ error, clause.Faulty error := by
  induction clauses with
  | nil => simp [not_firstFault_nil]
  | cons clause rest ih =>
      simp only [firstFault_cons, List.exists_mem_cons_iff, ← ih, exists_or, exists_and_left]
      by_cases faulty : ∃ error, clause.Faulty error
      · simp [faulty]
      · simp [not_exists.mp faulty]

/-! ## What building a plan is refused for -/

/-- Faults are those of the comparison that a clause denotes, if it compares a field. -/
theorem faulty_iff :
    clause.Faulty error ↔ clause.comparedField?.isSome ∧
      Condition.ofComparison clause.operator clause.value? = .error error := by
  simp only [Condition.ofComparison, Operator.ofName, bind, Except.bind]
  constructor
  · intro faulty
    cases faulty with
    | operator compares unknown => exact ⟨compares, by rw [unknown]⟩
    | operand compares known rejected =>
        refine ⟨compares, ?_⟩
        rw [known]
        simp only [Operator.condition, rejected]
  · rintro ⟨compares, refused⟩
    cases known : Operator.ofName? clause.operator with
    | none =>
        rw [known] at refused
        rw [← Except.error.inj refused]
        exact .operator compares known
    | some operator =>
        rw [known] at refused
        simp only [Operator.condition] at refused
        cases rejected : operator.conditionOn (Operand.coerce clause.value?) with
        | ok condition =>
            rw [rejected] at refused
            contradiction
        | error fault =>
            rw [rejected] at refused
            rw [← Except.error.inj refused]
            exact .operand compares known rejected

/-- Building is refused exactly for the first fault of some clauses. -/
def RefusedFor {Built : Type} (built : Except Error Built) (clauses : List Clause) : Prop :=
  ∀ error, built = .error error ↔ FirstFault clauses error

namespace RefusedFor

variable {Built Further : Type} {built : Except Error Built}

theorem ok (value : Built) : RefusedFor (.ok value) [] :=
  fun error => ⟨nofun, fun faulted => (not_firstFault_nil error faulted).elim⟩

/-- What is built upon something is refused for the fault of that, or else for its own. -/
theorem bind {next : Built → Except Error Further} (early : RefusedFor built first)
    (late : ∀ value, RefusedFor (next value) second) :
    RefusedFor (built >>= next) (first ++ second) := by
  intro error
  rw [firstFault_append]
  cases built with
  | error refusal =>
      have faulted : FirstFault first refusal := (early refusal).mp rfl
      constructor
      · intro refused
        exact .inl (Except.error.inj refused ▸ faulted)
      · rintro (same | ⟨none, _⟩)
        · have refused : Except.error refusal = .error error := (early error).mpr same
          rw [Except.error.inj refused]
          rfl
        · exact (none refusal faulted).elim
  | ok value =>
      have sound (other : Error) : ¬ FirstFault first other :=
        fun faulted => absurd ((early other).mpr faulted) nofun
      constructor
      · intro refused
        exact .inr ⟨sound, (late value error).mp refused⟩
      · rintro (faulted | ⟨_, faulted⟩)
        · exact (sound error faulted).elim
        · exact (late value error).mpr faulted

theorem map (refused : RefusedFor built first) (finish : Built → Further) :
    RefusedFor (built >>= fun value => pure (finish value)) first := by
  have finished := refused.bind fun value => ok (finish value)
  rwa [List.append_nil] at finished

end RefusedFor

theorem attach_refused (clause : Clause) (join : Join) (before : Collection) :
    RefusedFor (clause.attach join before) [clause] := by
  intro error
  rw [firstFault_singleton, faulty_iff, comparedField?, attach]
  cases clause.test? with
  | some test => simp
  | none =>
      cases clause.fieldName? with
      | none => simp
      | some field =>
          cases Condition.ofComparison clause.operator clause.value? with
          | error refusal => simp [bind, Except.bind]
          | ok condition => cases join <;> simp [bind, Except.bind, pure, Except.pure]

theorem comparedField?_of_saysNothing (silent : clause.saysNothing = true) :
    clause.comparedField? = none := by
  obtain ⟨noField, noTest⟩ : clause.fieldName? = none ∧ clause.test? = none := by
    simpa [saysNothing] using silent
  rw [comparedField?, noTest]
  exact noField

theorem attachOwn_refused (clause : Clause) (join? : Option Join) (fresh : Bool)
    (before : Collection) : RefusedFor (clause.attachOwn join? fresh before) [clause] := by
  rw [attachOwn, isMissingIn, isMissing_eq]
  split
  · next missing =>
      rw [Bool.and_eq_true] at missing
      intro error
      rw [firstFault_singleton, faulty_iff, comparedField?_of_saysNothing missing.2]
      simp
  · exact attach_refused clause _ before

mutual

/-- A tree of clauses is refused for the first fault in it, wherever and onto whatever it is built. -/
theorem attachTree_refused (join? : Option Join) (fresh : Bool) (before : Collection) :
    ∀ clause : Clause, RefusedFor (attachTree join? fresh before clause) (tree clause)
  | ⟨field?, operator, value?, parameter?, test?, or?, and?⟩ => by
      rw [attachTree, tree]
      have own := attachOwn_refused ⟨field?, operator, value?, parameter?, test?, none, none⟩
        join? fresh before
      refine own.bind fun middle => ?_
      exact (attachBranch_refused .or _ middle or?).bind fun later =>
        attachBranch_refused .and _ later and?

/-- The same for a list of clauses. -/
theorem attachAll_refused (join? : Option Join) (fresh : Bool) (before : Collection) :
    ∀ clauses : List Clause, RefusedFor (attachAll join? fresh before clauses) (treeAll clauses)
  | [] => by
      rw [attachAll, treeAll]
      exact .ok before
  | clause :: rest => by
      rw [attachAll, treeAll]
      exact (attachTree_refused join? fresh before clause).bind fun middle =>
        attachAll_refused join? _ middle rest

/-- The same for a list of clauses that may be absent. -/
theorem attachBranch_refused (join : Join) (fresh : Bool) (before : Collection) :
    ∀ clauses? : Option (List Clause),
      RefusedFor (attachBranch join fresh before clauses?) (treeBranch clauses?)
  | none => by
      rw [attachBranch, treeBranch]
      exact .ok before
  | some clauses => by
      rw [attachBranch, treeBranch]
      exact attachAll_refused (some join) fresh before clauses

end

/-! ## What faults depend on -/

/-- Two clauses compare alike: both by the same operator and operand, or neither. -/
structure ComparesAlike (clause other : Clause) : Prop where
  compares : clause.comparedField?.isSome = other.comparedField?.isSome
  operator : clause.operator = other.operator
  value : clause.value? = other.value?

theorem ComparesAlike.faulty_iff {other : Clause} (alike : clause.ComparesAlike other) :
    clause.Faulty error ↔ other.Faulty error := by
  rw [Clause.faulty_iff, Clause.faulty_iff, alike.compares, alike.operator, alike.value]

theorem firstFault_congr (alike : List.Forall₂ ComparesAlike first second) :
    FirstFault first error ↔ FirstFault second error := by
  induction alike with
  | nil => exact Iff.rfl
  | @cons clause other rest others head _ ih =>
      simp only [firstFault_cons, head.faulty_iff, ih]

end Clause

/-! ## What running a descriptor fails with -/

namespace Descriptor

open Clause (FirstFault RefusedFor ComparesAlike)

/-- The clauses of a descriptor and all clauses below them, in the order of their visits. -/
def tree (descriptor : Descriptor) : List Clause :=
  Clause.treeBranch descriptor.where?

theorem selection_refused (descriptor : Descriptor) (schema : TableSchema) :
    RefusedFor (descriptor.selection schema) descriptor.tree := by
  have treeGiven : descriptor.tree = Clause.treeAll (descriptor.clauses?.getD []) := by
    rw [tree, clauses?]
    cases descriptor.where? with
    | none => rfl
    | some clauses => cases clauses <;> rfl
  rw [treeGiven, selection]
  cases descriptor.clauses? with
  | some clauses => exact Clause.attachAll_refused none false .all clauses
  | none =>
      -- An order is kept only if it is that of an index, so asking for it cannot fail.
      have ordered (field : String) (asked : descriptor.order? schema = some field) :
          Collection.orderedByIndex schema field = .ok (.orderedBy field) :=
        if_pos (Option.filter_eq_some_iff.mp asked).2
      cases asked : descriptor.order? schema with
      | some field =>
          simp only [ordered field asked]
          exact .ok _
      | none => exact .ok _

/-- A plan is refused for the first fault of the clauses, whatever the schema. -/
theorem plan_refused (descriptor : Descriptor) (schema : TableSchema) :
    RefusedFor (descriptor.plan schema) descriptor.tree :=
  (descriptor.selection_refused schema).map descriptor.finish

/-- There is a plan exactly if no clause is faulty. -/
theorem planned_iff {descriptor : Descriptor} {schema : TableSchema} :
    (∃ collection, descriptor.plan schema = .ok collection) ↔
      ∀ clause ∈ descriptor.tree, ∀ error, ¬ clause.Faulty error := by
  have refused := descriptor.plan_refused schema
  have faulted : (∃ error, FirstFault descriptor.tree error) ↔
      ∃ clause ∈ descriptor.tree, ∃ error, clause.Faulty error := Clause.exists_firstFault_iff
  constructor
  · rintro ⟨collection, planned⟩ clause member error faulty
    rcases faulted.mpr ⟨clause, member, error, faulty⟩ with ⟨first, faults⟩
    rw [(refused first).mpr faults] at planned
    contradiction
  · intro sound
    cases planned : descriptor.plan schema with
    | ok collection => exact ⟨collection, rfl⟩
    | error error =>
        rcases faulted.mp ⟨error, (refused error).mp planned⟩ with ⟨clause, member, other, faulty⟩
        exact (sound clause member other faulty).elim

/-- A descriptor that is refused leaves the workspace as it was. -/
theorem runOn_run_of_fault {descriptor : Descriptor} {error : Error}
    (faulted : FirstFault descriptor.tree error) (space : Workspace) :
    Work.runOn descriptor.run space = (.error error, space) := by
  rw [runOn_run, (descriptor.plan_refused space.table.schema error).mpr faulted]

/-- Running a descriptor in a workspace fails in this way. -/
inductive Fails (descriptor : Descriptor) (space : Workspace) : Error → Prop where
  /-- A clause is faulty. -/
  | refused {error : Error} (faulted : FirstFault descriptor.tree error) :
      Fails descriptor space error
  /-- There are rows to erase, which the transaction must not. -/
  | forbidden {collection : Collection}
      (planned : descriptor.plan space.table.schema = .ok collection)
      (erases : descriptor.projection = .erase)
      (readOnly : space.transaction.mode = .readOnly)
      (selects : collection.rows space.table ≠ []) :
      Fails descriptor space (.readOnlyTransaction space.transaction.table)

theorem runOn_project_erase (collection : Collection) (space : Workspace) :
    Work.runOn (project .erase collection) space =
      match Work.runOn (Work.deleteAll (collection.keys space.table)) space with
      | (.ok count, left) => (.ok (.deleted count), left)
      | (.error error, left) => (.error error, left) := by
  cases deleted : Work.runOn (Work.deleteAll (collection.keys space.table)) space with
  | mk outcome left =>
      have erased : Work.runOn collection.delete space = (outcome, left) := deleted
      cases outcome with
      | ok count => exact Work.runOn_bind_ok erased
      | error error =>
          show Work.runOn (do pure (QueryResult.deleted (← collection.delete))) space = _
          exact Work.runOn_bind_error erased

theorem keys_eq_nil_iff {collection : Collection} {table : Table} :
    collection.keys table = [] ↔ collection.rows table = [] := by
  rw [Collection.keys, List.map_eq_nil_iff]

/-- Selected rows cannot be erased where the transaction must not write. -/
theorem runOn_project_forbidden {collection : Collection} {space : Workspace}
    (readOnly : space.transaction.mode = .readOnly) (selects : collection.rows space.table ≠ []) :
    Work.runOn (project .erase collection) space =
      (.error (.readOnlyTransaction space.transaction.table), space) := by
  rw [runOn_project_erase,
    Work.runOn_deleteAll_readOnly readOnly (mt keys_eq_nil_iff.mp selects)]

/-- Every other projection is answered. -/
theorem runOn_project_answers {wanted : Projection} {collection : Collection} {space : Workspace}
    (allowed : ¬ (wanted = .erase ∧ space.transaction.mode = .readOnly ∧
      collection.rows space.table ≠ [])) :
    ∃ answer left, Work.runOn (project wanted collection) space = (.ok answer, left) := by
  cases wanted with
  | count => exact ⟨_, _, rfl⟩
  | primaryKeys => exact ⟨_, _, rfl⟩
  | toArray => exact ⟨_, _, rfl⟩
  | none => exact ⟨_, _, rfl⟩
  | erase =>
      rw [runOn_project_erase]
      cases mode : space.transaction.mode with
      | readWrite =>
          rcases Work.runOn_deleteAll_writable mode (collection.keys space.table) with
            ⟨count, left, deleted⟩
          exact ⟨.deleted count, left, by rw [deleted]⟩
      | readOnly =>
          have nothing : collection.rows space.table = [] := by simpa [mode] using allowed
          rw [keys_eq_nil_iff.mpr nothing]
          exact ⟨.deleted 0, space, rfl⟩

/-- A run that fails changes nothing. -/
theorem Fails.runOn_run {descriptor : Descriptor} {space : Workspace} {error : Error}
    (fails : descriptor.Fails space error) :
    Work.runOn descriptor.run space = (.error error, space) := by
  cases fails with
  | refused faulted => exact runOn_run_of_fault faulted space
  | forbidden planned erases readOnly selects =>
      rw [Descriptor.runOn_run, planned, erases]
      exact runOn_project_forbidden readOnly selects

/-- A run that does not fail in one of these ways is answered. -/
theorem answers_of_not_fails {descriptor : Descriptor} {space : Workspace}
    (sound : ∀ error, ¬ descriptor.Fails space error) :
    ∃ answer left, Work.runOn descriptor.run space = (.ok answer, left) := by
  rw [runOn_run]
  cases planned : descriptor.plan space.table.schema with
  | error error =>
      have faulted := (descriptor.plan_refused space.table.schema error).mp planned
      exact (sound error (.refused faulted)).elim
  | ok collection =>
      refine runOn_project_answers ?_
      rintro ⟨erases, readOnly, selects⟩
      exact sound _ (.forbidden planned erases readOnly selects)

theorem runOn_run_error_iff {descriptor : Descriptor} {space : Workspace} {error : Error} :
    (Work.runOn descriptor.run space).1 = .error error ↔ descriptor.Fails space error := by
  constructor
  · intro failed
    by_contra other
    have sound (failure : Error) : ¬ descriptor.Fails space failure := by
      intro fails
      rw [fails.runOn_run] at failed
      exact other (Except.error.inj failed ▸ fails)
    rcases answers_of_not_fails sound with ⟨answer, left, ran⟩
    rw [ran] at failed
    contradiction
  · intro fails
    rw [fails.runOn_run]

/--
A plan is refused exactly for the first faulty clause in the order own comparison, `or`
list, `and` list, on every schema.  Every descriptor whose clauses compare alike, whatever
its tests and all else, is then refused for the same before anything is read or written.
The only other failure is that of erasing selected rows in a transaction that must not
write, and no failure changes anything.
-/
theorem refused_for_first_fault (descriptor : Descriptor) :
    (∀ schema error,
      descriptor.plan schema = .error error ↔ FirstFault descriptor.tree error) ∧
    (∀ error, FirstFault descriptor.tree error →
      ∀ other : Descriptor, List.Forall₂ ComparesAlike descriptor.tree other.tree →
        ∀ space, Work.runOn other.run space = (.error error, space)) ∧
    ∀ space error,
      ((Work.runOn descriptor.run space).1 = .error error ↔ descriptor.Fails space error) ∧
        ((Work.runOn descriptor.run space).1 = .error error →
          (Work.runOn descriptor.run space).2 = space) := by
  refine ⟨descriptor.plan_refused, ?_, ?_⟩
  · intro error faulted other alike space
    exact runOn_run_of_fault ((Clause.firstFault_congr alike).mp faulted) space
  · intro space error
    refine ⟨runOn_run_error_iff, ?_⟩
    intro failed
    rw [(runOn_run_error_iff.mp failed).runOn_run]

/--
The operators of a clause without a field and of one with a test are not looked at.  Of the
two faulty clauses below the first one counts, whatever the test would answer, and the row
that would be erased stays.
-/
theorem refused_for_fault_below_group :
    let bounds : Error := .invalidOperand "between" "expected two bounds, got 1"
    let descriptor (answer : Bool) : Descriptor :=
      { Descriptor.all with
        where? := some [{ Clause.group with
          operator := "nope"
          or? := some [{ Clause.group with
            operator := "nope", test? := some ⟨.named "p", fun _ _ => answer⟩ }]
          and? := some [.comparison "a" "between" (.integer 1),
            .comparison "a" "nope" (.integer 1)] }]
        erase := true }
    let table : Table :=
      ⟨⟨"t", "id", false, []⟩, ⟨[(.integer 1, .ofList [("a", .integer 1)])]⟩, 1⟩
    let space : Workspace := ⟨table, .begin "t" .readWrite⟩
    (descriptor true).plan table.schema = .error bounds ∧
      FirstFault (descriptor true).tree bounds ∧
      List.Forall₂ ComparesAlike (descriptor true).tree (descriptor false).tree ∧
      Work.runOn (descriptor false).run space = (.error bounds, space) := by
  intro bounds descriptor table space
  have planned : (descriptor true).plan table.schema = .error bounds := rfl
  obtain ⟨plans, runs, _⟩ := refused_for_first_fault (descriptor true)
  have faulted : FirstFault (descriptor true).tree bounds := (plans table.schema bounds).mp planned
  have alike : List.Forall₂ ComparesAlike (descriptor true).tree (descriptor false).tree :=
    .cons ⟨rfl, rfl, rfl⟩ (.cons ⟨rfl, rfl, rfl⟩
      (.cons ⟨rfl, rfl, rfl⟩ (.cons ⟨rfl, rfl, rfl⟩ .nil)))
  exact ⟨planned, faulted, alike, runs bounds faulted (descriptor false) alike space⟩

end Descriptor

end LiveTable
