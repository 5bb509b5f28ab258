import LiveTable.Proofs.Table.Selection
import LiveTable.Query.Plan

/-!
# The meaning of a tree of clauses

A plan selects a row exactly when the descriptor, read from left to right, lets the
record of that row in.  The reading looks at nothing but the one record: a verdict is
passed through the tree in the order own comparison, `or` list, `and` list.

`Collection.Extends` says which steps a part of the tree has added, by what they make
of the verdict on a record; the clauses add their steps in the order in which the
reading meets them.
-/

set_option autoImplicit false

namespace LiveTable

/-! ## Reading a tree on one record -/

namespace Clause

/-- Whether a clause has neither a field nor a test. -/
def saysNothing (clause : Clause) : Bool :=
  clause.fieldName?.isNone && clause.test?.isNone

/-- Whether a value satisfies the comparison of a clause. -/
def compares (clause : Clause) (found? : Option Value) : Bool :=
  match Condition.ofComparison clause.operator clause.value? with
  | .ok condition => condition.holds found?
  | .error _ => false

/-- What a clause makes of the verdict by itself.  A test goes before a field. -/
def judgeOwn (clause : Clause) (join : Join) (record : Record) (verdict : Verdict) : Verdict :=
  match clause.test?, clause.fieldName? with
  | some test, _ => verdict.narrow (test.accepts record (clause.parameter?.getD .null))
  | none, none => verdict
  | none, some field =>
    let holds := clause.compares (record.getPath? field)
    if join = .and then verdict.narrow holds else verdict.widen holds

mutual

/-- What a clause and the clauses below it make of the verdict. -/
def judgeTree (record : Record) (join : Join) (verdict : Verdict) : Clause → Verdict
  | ⟨field?, operator, value?, parameter?, test?, or?, and?⟩ =>
    let own : Clause := ⟨field?, operator, value?, parameter?, test?, none, none⟩
    let missing := join = .where && own.saysNothing
    let verdict := own.judgeOwn join record verdict
    let verdict := judgeBranch record .or missing verdict or?
    judgeBranch record .and missing verdict and?

/--
What a list of clauses makes of the verdict.  While the list is fresh, which it is up
to its first clause that says something, its clauses are joined as at the top.
-/
def judgeAll (record : Record) (join : Join) (fresh : Bool) (verdict : Verdict) :
    List Clause → Verdict
  | [] => verdict
  | clause :: rest =>
    let verdict := judgeTree record (if fresh then .where else join) verdict clause
    judgeAll record join (fresh && clause.saysNothing) verdict rest

/-- What a list of clauses below another clause makes of the verdict. -/
def judgeBranch (record : Record) (join : Join) (fresh : Bool) (verdict : Verdict) :
    Option (List Clause) → Verdict
  | none => verdict
  | some clauses => judgeAll record join fresh verdict clauses

end

end Clause

namespace Descriptor

/-- The verdict of the clauses, then of the test, on a record. -/
def judge (descriptor : Descriptor) (record : Record) : Verdict :=
  let verdict := Clause.judgeAll record .where false none (descriptor.clauses?.getD [])
  match descriptor.test? with
  | some test => verdict.narrow (test.accepts record)
  | none => verdict

/-- Whether the order that a descriptor without clauses asks for lets a record in. -/
def orderAdmits (descriptor : Descriptor) (schema : TableSchema) (record : Record) : Bool :=
  match descriptor.order? schema with
  | some field => field = schema.primaryKey || (Table.indexed? record field).isSome
  | none => true

/-- Whether a descriptor lets a record in. -/
def admits (descriptor : Descriptor) (schema : TableSchema) (record : Record) : Bool :=
  (descriptor.judge record).admits &&
    (descriptor.clauses?.isSome || descriptor.orderAdmits schema record)

end Descriptor

/-! ## Steps that have been added -/

namespace Collection

/-- One collection becomes another by steps that do this to the verdict on a record. -/
def Extends (before after : Collection) (judgement : Record → Verdict → Verdict) : Prop :=
  ∃ added, after = { before with steps := before.steps ++ added } ∧
    ∀ record verdict, Step.judgeAll added record verdict = judgement record verdict

namespace Extends

variable {before middle after : Collection} {early late : Record → Verdict → Verdict}

theorem refl (collection : Collection) : Extends collection collection fun _ verdict => verdict :=
  ⟨[], by simp, fun _ _ => rfl⟩

theorem trans
    (first : Extends before middle early) (second : Extends middle after late) :
    Extends before after fun record verdict => late record (early record verdict) := by
  rcases first with ⟨added, rfl, judged⟩
  rcases second with ⟨more, rfl, judgedMore⟩
  refine ⟨added ++ more, by simp, ?_⟩
  intro record verdict
  show _ = late record (early record verdict)
  rw [← judged, ← judgedMore, Step.judgeAll, List.foldl_append]
  rfl

theorem withStep (collection : Collection) (step : Step) :
    Extends collection (collection.withStep step) fun record verdict =>
      step.judge record verdict :=
  ⟨[step], rfl, fun _ _ => rfl⟩

theorem order? (extended : Extends before after early) : after.order? = before.order? := by
  rcases extended with ⟨_, rfl, _⟩
  rfl

end Extends

end Collection

/-! ## What the clauses add -/

namespace Clause

open Collection (Extends)

variable {before after : Collection}

theorem isMissing_eq (clause : Clause) (join : Join) :
    clause.isMissing join = (join = .where && clause.saysNothing) := by
  rw [isMissing, saysNothing, Bool.and_assoc]

theorem joinIn_eq (join? : Option Join) (fresh : Bool) :
    joinIn join? fresh = if fresh then .where else join?.getD .where := by
  cases join? <;> cases fresh <;> rfl

/-- A list that is fresh stays so behind a clause exactly if that says nothing. -/
theorem fresh_and_isMissingIn (clause : Clause) (join? : Option Join) (fresh : Bool) :
    (fresh && clause.isMissingIn join? fresh) = (fresh && clause.saysNothing) := by
  cases fresh <;> simp [isMissingIn, isMissing_eq, joinIn_eq]

/-- A clause that says nothing leaves the verdict as it is. -/
theorem judgeOwn_of_saysNothing
    {clause : Clause} (silent : clause.saysNothing = true)
    (join : Join) (record : Record) (verdict : Verdict) :
    clause.judgeOwn join record verdict = verdict := by
  obtain ⟨noField, noTest⟩ : clause.fieldName? = none ∧ clause.test? = none := by
    simpa [saysNothing] using silent
  rw [judgeOwn, noField, noTest]

theorem attach_extends
    {clause : Clause} {join : Join} (built : clause.attach join before = .ok after) :
    Extends before after fun record verdict => clause.judgeOwn join record verdict := by
  unfold attach at built
  unfold judgeOwn
  cases test : clause.test? with
  | some test =>
      simp only [test] at built ⊢
      rcases Except.ok.inj built with rfl
      exact .withStep before _
  | none =>
      cases name : clause.fieldName? with
      | none =>
          simp only [test, name] at built ⊢
          rcases Except.ok.inj built with rfl
          exact .refl before
      | some field =>
          simp only [test, name, compares] at built ⊢
          cases denoted : Condition.ofComparison clause.operator clause.value? with
          | error error =>
              rw [denoted] at built
              contradiction
          | ok condition =>
              rw [denoted] at built
              cases join with
              | and =>
                  rcases Except.ok.inj built with rfl
                  exact .withStep before _
              | or =>
                  rcases Except.ok.inj built with rfl
                  exact .withStep before _
              | «where» =>
                  rcases Except.ok.inj built with rfl
                  exact .withStep before _

theorem attachOwn_extends
    {clause : Clause} {join? : Option Join} {fresh : Bool}
    (built : clause.attachOwn join? fresh before = .ok after) :
    Extends before after fun record verdict =>
      clause.judgeOwn (joinIn join? fresh) record verdict := by
  rw [attachOwn, isMissingIn, isMissing_eq] at built
  split at built
  · next missing =>
      rcases Except.ok.inj built with rfl
      have silent : clause.saysNothing = true := by
        simp only [Bool.and_eq_true] at missing
        exact missing.2
      simp only [judgeOwn_of_saysNothing silent]
      exact .refl before
  · exact attach_extends built

mutual

/-- A clause adds steps that do to the verdict what reading the clause does. -/
theorem attachTree_extends
    (join? : Option Join) (fresh : Bool) {before after : Collection} :
    ∀ {clause : Clause}, attachTree join? fresh before clause = .ok after →
      Extends before after fun record verdict =>
        judgeTree record (joinIn join? fresh) verdict clause
  | ⟨field?, operator, value?, parameter?, test?, or?, and?⟩, built => by
      rw [attachTree] at built
      simp only [bind, Except.bind] at built
      split at built
      · contradiction
      · next own ownBuilt =>
          split at built
          · contradiction
          · next widened orBuilt =>
              have missing := isMissing_eq
                ⟨field?, operator, value?, parameter?, test?, none, none⟩ (joinIn join? fresh)
              rw [isMissingIn, missing] at orBuilt built
              have ownExtends := attachOwn_extends ownBuilt
              have orExtends := attachBranch_extends .or _ orBuilt
              have andExtends := attachBranch_extends .and _ built
              exact (ownExtends.trans orExtends).trans andExtends

/-- A list of clauses adds steps that do to the verdict what reading the list does. -/
theorem attachAll_extends
    (join? : Option Join) (fresh : Bool) {before after : Collection} :
    ∀ {clauses : List Clause}, attachAll join? fresh before clauses = .ok after →
      Extends before after fun record verdict =>
        judgeAll record (join?.getD .where) fresh verdict clauses
  | [], built => by
      rw [attachAll] at built
      rcases Except.ok.inj built with rfl
      exact .refl before
  | clause :: rest, built => by
      rw [attachAll] at built
      simp only [bind, Except.bind] at built
      split at built
      · contradiction
      · next middle headBuilt =>
          have headExtends := attachTree_extends join? fresh headBuilt
          have restExtends := attachAll_extends join? _ built
          rw [joinIn_eq] at headExtends
          rw [fresh_and_isMissingIn] at restExtends
          exact headExtends.trans restExtends

/-- The same for a list of clauses that may be absent. -/
theorem attachBranch_extends
    (join : Join) (fresh : Bool) {before after : Collection} :
    ∀ {clauses? : Option (List Clause)},
      attachBranch join fresh before clauses? = .ok after →
      Extends before after fun record verdict => judgeBranch record join fresh verdict clauses?
  | none, built => by
      rw [attachBranch] at built
      rcases Except.ok.inj built with rfl
      exact .refl before
  | some clauses, built => by
      rw [attachBranch] at built
      exact attachAll_extends (some join) fresh built

end

end Clause

/-! ## What a plan selects -/

namespace Descriptor

/-- The test is the last step; direction and window are no steps. -/
theorem finish_eq (descriptor : Descriptor) (collection : Collection) :
    descriptor.finish collection =
      { order? := collection.order?
        steps := collection.steps ++ descriptor.test?.toList.map fun test => .keep test.accepts
        reversed := descriptor.reverse ^^ collection.reversed
        offset := descriptor.offset?.getD collection.offset
        limit? := descriptor.limit?.or collection.limit? } := by
  rcases descriptor with ⟨_, _, reverse, offset?, limit?, test?, _, _, _, _⟩
  cases test? <;> cases reverse <;> cases offset? <;> cases limit? <;>
    simp [finish, Collection.filter, Collection.withStep, Collection.reverse, Collection.skip,
      Collection.take]

theorem finish_order? (descriptor : Descriptor) (collection : Collection) :
    (descriptor.finish collection).order? = collection.order? := by
  rw [finish_eq]

theorem finish_steps (descriptor : Descriptor) (collection : Collection) :
    (descriptor.finish collection).steps =
      collection.steps ++ descriptor.test?.toList.map fun test => .keep test.accepts := by
  rw [finish_eq]

theorem judgeAll_finish (descriptor : Descriptor) (collection : Collection) (record : Record) :
    Step.judgeAll (descriptor.finish collection).steps record none =
      match descriptor.test? with
      | some test => (Step.judgeAll collection.steps record none).narrow (test.accepts record)
      | none => Step.judgeAll collection.steps record none := by
  rw [finish_steps, Step.judgeAll, List.foldl_append]
  cases descriptor.test? <;> rfl

theorem selection_of_clauses
    {descriptor : Descriptor} {schema : TableSchema} {collection : Collection}
    {clauses : List Clause} (given : descriptor.clauses? = some clauses)
    (built : descriptor.selection schema = .ok collection) :
    Collection.Extends .all collection fun record verdict =>
      Clause.judgeAll record .where false verdict clauses := by
  rw [selection, given] at built
  exact Clause.attachAll_extends none false built

theorem selection_of_order
    {descriptor : Descriptor} {schema : TableSchema} {collection : Collection}
    (missing : descriptor.clauses? = none)
    (built : descriptor.selection schema = .ok collection) :
    collection = { Collection.all with order? := descriptor.order? schema } := by
  rw [selection, missing] at built
  cases order : descriptor.order? schema with
  | some field =>
      simp only [order, Collection.orderedByIndex] at built
      split at built
      · exact (Except.ok.inj built).symm
      · contradiction
  | none =>
      simp only [order] at built
      exact (Except.ok.inj built).symm

/-- The steps of a selection judge a record as the clauses do. -/
theorem judgeAll_selection
    {descriptor : Descriptor} {schema : TableSchema} {collection : Collection}
    (built : descriptor.selection schema = .ok collection) (record : Record) :
    Step.judgeAll collection.steps record none =
      Clause.judgeAll record .where false none (descriptor.clauses?.getD []) := by
  cases given : descriptor.clauses? with
  | some clauses =>
      rcases selection_of_clauses given built with ⟨added, rfl, judged⟩
      exact judged record none
  | none =>
      rw [selection_of_order given built]
      rfl

/-- Whether there is a match to select by or a scan to filter, the rows are the same. -/
theorem finish_scans
    {descriptor : Descriptor} {schema : TableSchema} {collection : Collection}
    (built : descriptor.selection schema = .ok collection) (record : Record) :
    ((descriptor.finish collection).steps.any Collection.isSelect ||
        (descriptor.finish collection).scans schema record) =
      (descriptor.clauses?.isSome || descriptor.orderAdmits schema record) := by
  rw [Collection.scans, finish_order?]
  cases given : descriptor.clauses? with
  | some clauses =>
      rw [(selection_of_clauses given built).order?]
      exact Bool.or_true _
  | none =>
      have noMatch : (descriptor.finish collection).steps.any Collection.isSelect = false := by
        rw [finish_steps, selection_of_order given built]
        cases descriptor.test? <;> rfl
      rw [noMatch, selection_of_order given built]
      rfl

/-- A plan lets in what its descriptor does. -/
theorem plan_admits
    {descriptor : Descriptor} {schema : TableSchema} {collection : Collection}
    (planned : descriptor.plan schema = .ok collection) (record : Record) :
    collection.admits schema record = descriptor.admits schema record := by
  simp only [plan, bind, Except.bind, pure, Except.pure] at planned
  split at planned
  · contradiction
  · next selection built =>
      rcases Except.ok.inj planned with rfl
      rw [Collection.admits, finish_scans built, judgeAll_finish, judgeAll_selection built]
      rfl

/--
A row of the table is selected, before any reversal and window, exactly if the reading
of the descriptor lets its record in.
-/
theorem selected_iff_admits
    {descriptor : Descriptor} {table : Table} {collection : Collection}
    (ascending : table.rows.Ascending)
    (planned : descriptor.plan table.schema = .ok collection) (row : Value × Record) :
    row ∈ collection.ordered table ↔
      row ∈ table.scan ∧ descriptor.admits table.schema row.2 = true := by
  rw [Collection.mem_ordered ascending, plan_admits planned]

/-- The first clause is missing, so the one below it begins a selection instead of narrowing. -/
theorem selected_under_missing_clause :
    let low := (Value.integer 1, Record.ofList [("a", .integer 5)])
    let high := (Value.integer 2, Record.ofList [("a", .integer 9)])
    let table : Table := ⟨⟨"t", "id", false, ["a"]⟩, ⟨[low, high]⟩, 1⟩
    let descriptor := Descriptor.all.withClause
      { Clause.group with and? := some [.comparison "a" "above" (.integer 5)] }
    ∃ collection, table.rows.Ascending ∧ descriptor.plan table.schema = .ok collection ∧
      low ∉ collection.ordered table ∧ high ∈ collection.ordered table := by
  intro low high table descriptor
  have ascending : table.rows.Ascending :=
    List.pairwise_pair.mpr (show compare low.1 high.1 = .lt by decide)
  obtain ⟨collection, planned⟩ : ∃ collection, descriptor.plan table.schema = .ok collection :=
    ⟨_, rfl⟩
  have lowReading : descriptor.admits table.schema low.2 = false := by
    subst descriptor table low
    decide +kernel
  have highReading : descriptor.admits table.schema high.2 = true := by
    subst descriptor table high
    decide +kernel
  refine ⟨collection, ascending, planned, ?_, ?_⟩
  · rw [selected_iff_admits ascending planned, lowReading]
    simp
  · rw [selected_iff_admits ascending planned]
    exact ⟨by simp [table, Table.scan], highReading⟩

end Descriptor

end LiveTable
