import LiveTable.Proofs.Query.Coherence
import LiveTable.Proofs.Query.Comparison
import LiveTable.Proofs.Query.Meaning
import Mathlib.Data.List.Forall2

/-!
# Equal descriptors

Running one of two equal descriptors in place of the other makes no difference, if the
difference between equal values is not looked at.  Three things could look: a test
that is told by a name which other tests bear as well, a test that is given one of two
equal parameters, and a comparison of texts with one of two equal values, for a zero of
floating point is written with its sign.  `Clause.AgreeOwn` says of two clauses that
stand at the same place that none of them does.
-/

set_option autoImplicit false

namespace LiveTable

/-! ## Collections that select the same rows -/

namespace Collection

/-- Two steps do the same to every selection. -/
inductive AlikeStep : Step → Step → Prop where
  | select (field : String) {first second : Condition} (alike : first.Alike second) :
      AlikeStep (.select field first) (.select field second)
  | keep (test : Record → Bool) : AlikeStep (.keep test) (.keep test)

/-- Two collections are described alike, up to conditions that hold of the same values. -/
structure Alike (first second : Collection) : Prop where
  order? : first.order? = second.order?
  steps : List.Forall₂ AlikeStep first.steps second.steps
  reversed : first.reversed = second.reversed
  offset : first.offset = second.offset
  limit? : first.limit? = second.limit?

variable {first second : Collection} {table : Table}

theorem Alike.refl (collection : Collection) : collection.Alike collection := by
  refine ⟨rfl, List.forall₂_same.mpr ?_, rfl, rfl, rfl⟩
  rintro (⟨field, condition⟩ | test) _
  · exact .select field (.refl condition)
  · exact .keep test

theorem isSelect_congr {step other : Step} (alike : AlikeStep step other) :
    isSelect step = isSelect other := by
  cases alike <;> rfl

theorem advance_congr {step other : Step} (alike : AlikeStep step other) (selected? : Option Rows) :
    advance table selected? step = advance table selected? other := by
  cases alike with
  | select field alike => simp only [advance, alike _]
  | keep test => rfl

theorem any_isSelect_congr {steps others : List Step}
    (alike : List.Forall₂ AlikeStep steps others) :
    steps.any isSelect = others.any isSelect := by
  induction alike with
  | nil => rfl
  | cons head _ ih => rw [List.any_cons, List.any_cons, isSelect_congr head, ih]

theorem foldl_advance_congr {steps others : List Step}
    (alike : List.Forall₂ AlikeStep steps others) (selected? : Option Rows) :
    steps.foldl (advance table) selected? = others.foldl (advance table) selected? := by
  induction alike generalizing selected? with
  | nil => rfl
  | cons head _ ih => rw [List.foldl_cons, List.foldl_cons, advance_congr head, ih]

theorem accepts_congr {steps others : List Step} (alike : List.Forall₂ AlikeStep steps others)
    (record : Record) : accepts steps record = accepts others record := by
  rw [accepts, accepts]
  induction alike with
  | nil => rfl
  | cons head _ ih =>
      rw [List.all_cons, List.all_cons, ih]
      cases head <;> rfl

theorem Alike.ordered (alike : first.Alike second) :
    first.ordered table = second.ordered table := by
  rcases first with ⟨order?, steps, reversed, offset, limit?⟩
  rcases second with ⟨_, others, _, _, _⟩
  rcases alike with ⟨rfl, each, rfl, rfl, rfl⟩
  simp only [Collection.ordered, any_isSelect_congr each, foldl_advance_congr each,
    accepts_congr each]
  cases each with
  | nil => rfl
  | cons head rest =>
      cases head with
      | select field alike => simp only [any_isSelect_congr rest]
      | keep test => rfl

theorem Alike.rows (alike : first.Alike second) : first.rows table = second.rows table := by
  rw [Collection.rows, Collection.rows, alike.ordered, alike.reversed, alike.offset, alike.limit?]

theorem Alike.withStep (alike : first.Alike second) {step other : Step}
    (same : AlikeStep step other) : (first.withStep step).Alike (second.withStep other) :=
  { alike with steps := List.rel_append alike.steps (.cons same .nil) }

end Collection

namespace Clause

open Collection (AlikeStep)

/-! ## What equal clauses leave open -/

mutual

/-- A clause and all clauses below it, each without the lists below it. -/
def tree : Clause → List Clause
  | ⟨field?, operator, value?, parameter?, test?, or?, and?⟩ =>
    ⟨field?, operator, value?, parameter?, test?, none, none⟩ :: (treeBranch or? ++ treeBranch and?)

/-- The clauses of a list that may be absent, and all clauses below them. -/
def treeBranch : Option (List Clause) → List Clause
  | none => []
  | some clauses => treeAll clauses

/-- The clauses of a list and all clauses below them. -/
def treeAll : List Clause → List Clause
  | [] => []
  | clause :: rest => tree clause ++ treeAll rest

end

/-- Two clauses agree on more than their equality tells, the lists below them aside. -/
structure AgreeOwn (first second : Clause) : Prop where
  /-- Tests of one identity accept the same. -/
  tests : ∀ test ∈ first.test?, ∀ same ∈ second.test?,
    test.identity = same.identity → test.accepts = same.accepts
  /-- The test does not tell the two parameters apart. -/
  parameters : ∀ test ∈ first.test?, ∀ record,
    test.accepts record (first.parameter?.getD .null) =
      test.accepts record (second.parameter?.getD .null)
  /-- Where texts are compared, the two values are shown by the same text. -/
  spelled : first.test? = none → first.fieldName?.isSome → comparesText first.operator →
    first.value?.map Value.toText = second.value?.map Value.toText

namespace AgreeOwn

variable {first second : Clause}

/-- A clause agrees with itself, whatever it asks. -/
theorem refl (clause : Clause) : clause.AgreeOwn clause where
  tests test given same also _ := by rw [Option.some.inj (given.symm.trans also)]
  parameters _ _ _ := rfl
  spelled _ _ _ := rfl

/-- A clause without a test leaves open no more than how its value is shown. -/
theorem of_untested (untested : first.test? = none)
    (spelled : comparesText first.operator →
      first.value?.map Value.toText = second.value?.map Value.toText) :
    first.AgreeOwn second where
  tests test given := by
    rw [untested] at given
    contradiction
  parameters test given := by
    rw [untested] at given
    contradiction
  spelled _ _ texts := spelled texts

/-- A comparison of values leaves nothing open. -/
theorem of_values (untested : first.test? = none)
    (compares : comparesText first.operator = false) : first.AgreeOwn second := by
  refine of_untested untested fun texts => ?_
  rw [compares] at texts
  contradiction

/-- A comparison with equal values leaves nothing open if there are no zeros in them. -/
theorem of_zeroless (untested : first.test? = none)
    (equal : sameValue? first.value? second.value?)
    (plain : ∀ value ∈ first.value?, value.zeroless) : first.AgreeOwn second := by
  refine of_untested untested fun _ => ?_
  cases given : first.value? with
  | none =>
      cases also : second.value? with
      | none => rfl
      | some twin =>
          rw [given, also] at equal
          contradiction
  | some value =>
      cases also : second.value? with
      | none =>
          rw [given, also] at equal
          contradiction
      | some twin =>
          rw [given, also] at equal
          exact congrArg some (Value.toText_of_same equal (plain value given))

end AgreeOwn

/-- The clauses at the same places of two lists agree on more than their equality tells. -/
def Agree (first second : List Clause) : Prop :=
  ∀ pair ∈ first.zip second, pair.1.AgreeOwn pair.2

theorem agree_cons {own other : Clause} {first second : List Clause} :
    Agree (own :: first) (other :: second) ↔ own.AgreeOwn other ∧ Agree first second :=
  List.forall_mem_cons

theorem agree_append {first second more others : List Clause}
    (lengths : first.length = second.length) :
    Agree (first ++ more) (second ++ others) ↔ Agree first second ∧ Agree more others := by
  rw [Agree, List.zip_append lengths]
  exact List.forall_mem_append

mutual

/-- Equal clauses have as many clauses below them. -/
theorem length_tree :
    ∀ {first second : Clause}, same first second → (tree first).length = (tree second).length
  | ⟨_, _, _, _, _, or?, and?⟩, ⟨_, _, _, _, _, otherOr?, otherAnd?⟩, equal => by
      simp only [same, Bool.and_eq_true] at equal
      simp only [tree, List.length_cons, List.length_append, length_treeBranch equal.1.2,
        length_treeBranch equal.2]

theorem length_treeAll :
    ∀ {first second : List Clause}, sameAll first second →
      (treeAll first).length = (treeAll second).length
  | [], [], _ => rfl
  | [], _ :: _, equal => by simp [sameAll] at equal
  | _ :: _, [], equal => by simp [sameAll] at equal
  | clause :: rest, other :: others, equal => by
      simp only [sameAll, Bool.and_eq_true] at equal
      simp only [treeAll, List.length_append, length_tree equal.1, length_treeAll equal.2]

theorem length_treeBranch :
    ∀ {first second : Option (List Clause)}, sameBranch first second →
      (treeBranch first).length = (treeBranch second).length
  | none, none, _ => rfl
  | none, some _, equal => by simp [sameBranch] at equal
  | some _, none, equal => by simp [sameBranch] at equal
  | some clauses, some others, equal => by
      simp only [sameBranch] at equal
      exact length_treeAll equal

end

/-! ## Equal clauses add the same steps -/

/-- Two clauses are equal, the lists below them aside. -/
structure SameOwn (first second : Clause) : Prop where
  field : first.field? = second.field?
  operator : first.operator = second.operator
  value : sameValue? first.value? second.value?
  parameter : sameValue? first.parameter? second.parameter?
  test : sameTest? first.test? second.test?

variable {own other : Clause} {before twin : Collection}

theorem SameOwn.of_same (equal : own.same other) : own.SameOwn other := by
  rcases own with ⟨field?, operator, value?, parameter?, test?, or?, and?⟩
  rcases other with ⟨_, _, _, _, _, _, _⟩
  simp only [same, Bool.and_eq_true, beq_iff_eq] at equal
  rcases equal with ⟨⟨⟨⟨⟨⟨field, operator⟩, value⟩, parameter⟩, test⟩, -⟩, -⟩
  exact ⟨field, operator, value, parameter, test⟩

theorem SameOwn.fieldName? (equal : own.SameOwn other) : own.fieldName? = other.fieldName? := by
  rw [Clause.fieldName?, Clause.fieldName?, equal.field]

/-- The tests of equal clauses are both absent, or both there and of one identity. -/
theorem SameOwn.tests (equal : own.SameOwn other) :
    own.test? = none ∧ other.test? = none ∨
      ∃ test same, own.test? = some test ∧ other.test? = some same ∧
        test.identity = same.identity := by
  have tests := equal.test
  cases given : own.test? <;> cases also : other.test? <;> rw [given, also] at tests <;>
    simp_all [sameTest?]

theorem SameOwn.isMissingIn (equal : own.SameOwn other) (join? : Option Join) (fresh : Bool) :
    own.isMissingIn join? fresh = other.isMissingIn join? fresh := by
  rw [Clause.isMissingIn, Clause.isMissingIn, isMissing, isMissing, equal.fieldName?]
  rcases equal.tests with ⟨absent, also⟩ | ⟨test, same, given, also, -⟩
  · rw [absent, also]
  · rw [given, also]
    rfl

theorem attach_corresponds (equal : own.SameOwn other) (agree : own.AgreeOwn other)
    (alike : before.Alike twin) (join : Join) :
    Corresponds Eq Collection.Alike (own.attach join before) (other.attach join twin) := by
  rw [attach, attach, ← equal.fieldName?, ← equal.operator]
  rcases equal.tests with ⟨absent, also⟩ | ⟨test, same, given, also, identity⟩
  · rw [absent, also]
    cases compared : own.fieldName? with
    | none => exact .ok alike
    | some field =>
        have spelled := agree.spelled absent (by simp [compared])
        refine (Condition.ofComparison_corresponds equal.value own.operator spelled).bind ?_
        intro condition twinCondition holds
        cases join with
        | and =>
            refine .ok (alike.withStep ?_)
            simp only [holds _]
            exact .keep _
        | or => exact .ok (alike.withStep (.select field holds))
        | «where» => exact .ok (alike.withStep (.select field holds))
  · rw [given, also]
    have accepts : test.accepts = same.accepts := agree.tests test given same also identity
    have parameters := agree.parameters test given
    refine .ok (alike.withStep ?_)
    simp only [parameters, accepts]
    exact .keep _

theorem attachOwn_corresponds (equal : own.SameOwn other) (agree : own.AgreeOwn other)
    (alike : before.Alike twin) (join? : Option Join) (fresh : Bool) :
    Corresponds Eq Collection.Alike (own.attachOwn join? fresh before)
      (other.attachOwn join? fresh twin) := by
  rw [attachOwn, attachOwn, equal.isMissingIn]
  split
  · exact .ok alike
  · exact attach_corresponds equal agree alike _

mutual

theorem attachTree_corresponds (join? : Option Join) (fresh : Bool) {before twin : Collection}
    (alike : before.Alike twin) :
    ∀ {first second : Clause}, same first second → Agree (tree first) (tree second) →
      Corresponds Eq Collection.Alike (attachTree join? fresh before first)
        (attachTree join? fresh twin second)
  | ⟨field?, operator, value?, parameter?, test?, or?, and?⟩,
    ⟨otherField?, otherOperator, otherValue?, otherParameter?, otherTest?, otherOr?, otherAnd?⟩,
    equal, agree => by
      simp only [same, Bool.and_eq_true, beq_iff_eq] at equal
      rcases equal with ⟨⟨⟨⟨⟨⟨field, operator⟩, value⟩, parameter⟩, test⟩, ors⟩, ands⟩
      simp only [tree, agree_cons, agree_append (length_treeBranch ors)] at agree
      have own : SameOwn ⟨field?, _, value?, parameter?, test?, none, none⟩
          ⟨otherField?, _, otherValue?, otherParameter?, otherTest?, none, none⟩ :=
        ⟨field, operator, value, parameter, test⟩
      rw [attachTree, attachTree]
      simp only [own.isMissingIn]
      refine (attachOwn_corresponds own agree.1 alike _ _).bind fun alike => ?_
      refine (attachBranch_corresponds .or _ alike ors agree.2.1).bind fun alike => ?_
      exact attachBranch_corresponds .and _ alike ands agree.2.2

theorem attachAll_corresponds (join? : Option Join) (fresh : Bool) {before twin : Collection}
    (alike : before.Alike twin) :
    ∀ {first second : List Clause}, sameAll first second → Agree (treeAll first) (treeAll second) →
      Corresponds Eq Collection.Alike (attachAll join? fresh before first)
        (attachAll join? fresh twin second)
  | [], [], _, _ => by
      rw [attachAll, attachAll]
      exact .ok alike
  | [], _ :: _, equal, _ => by simp [sameAll] at equal
  | _ :: _, [], equal, _ => by simp [sameAll] at equal
  | clause :: rest, other :: others, equal, agree => by
      simp only [sameAll, Bool.and_eq_true] at equal
      simp only [treeAll, agree_append (length_tree equal.1)] at agree
      rw [attachAll, attachAll]
      simp only [(SameOwn.of_same equal.1).isMissingIn]
      refine (attachTree_corresponds join? fresh alike equal.1 agree.1).bind fun alike => ?_
      exact attachAll_corresponds join? _ alike equal.2 agree.2

theorem attachBranch_corresponds (join : Join) (fresh : Bool) {before twin : Collection}
    (alike : before.Alike twin) :
    ∀ {first second : Option (List Clause)}, sameBranch first second →
      Agree (treeBranch first) (treeBranch second) →
      Corresponds Eq Collection.Alike (attachBranch join fresh before first)
        (attachBranch join fresh twin second)
  | none, none, _, _ => by
      rw [attachBranch, attachBranch]
      exact .ok alike
  | none, some _, equal, _ => by simp [sameBranch] at equal
  | some _, none, equal, _ => by simp [sameBranch] at equal
  | some clauses, some others, equal, agree => by
      simp only [sameBranch] at equal
      simp only [treeBranch] at agree
      rw [attachBranch, attachBranch]
      exact attachAll_corresponds (some join) fresh alike equal agree

end

end Clause

/-! ## Equal descriptors are run alike -/

namespace Descriptor

variable {first second : Descriptor}

/-- Two descriptors agree on more than their equality tells. -/
structure Agree (first second : Descriptor) : Prop where
  clauses : Clause.Agree (Clause.treeBranch first.where?) (Clause.treeBranch second.where?)
  /-- Tests of one identity accept the same. -/
  tests : ∀ test ∈ first.test?, ∀ same ∈ second.test?,
    test.identity = same.identity → test.accepts = same.accepts

/-- What equality of descriptors says of each part. -/
structure SameParts (first second : Descriptor) : Prop where
  clauses : Clause.sameBranch first.where? second.where?
  orderBy? : first.orderBy? = second.orderBy?
  reverse : first.reverse = second.reverse
  offset? : first.offset? = second.offset?
  limit? : first.limit? = second.limit?
  test : first.test?.map RecordTest.identity = second.test?.map RecordTest.identity
  projection : first.projection = second.projection

theorem SameParts.of_same (equal : first.same second) : first.SameParts second := by
  simp only [same, Bool.and_eq_true, beq_iff_eq] at equal
  rcases equal with ⟨⟨⟨⟨⟨⟨⟨⟨⟨clauses, orderBy⟩, reverse⟩, offset⟩, limit⟩, test⟩, count⟩,
    primaryKeys⟩, erase⟩, toArray⟩
  have wanted : first.projection = second.projection := by
    simp only [Descriptor.projection, count, primaryKeys, erase, toArray]
  exact ⟨clauses, orderBy, reverse, offset, limit, test, wanted⟩

theorem SameParts.selection (equal : first.SameParts second) (agree : first.Agree second)
    (schema : TableSchema) :
    Corresponds Eq Collection.Alike (first.selection schema) (second.selection schema) := by
  rcases first with ⟨where?, orderBy?, reverse, offset?, limit?, test?, count, keys, erase, array⟩
  rcases second with ⟨other?, _, _, _, _, _, _, _, _, _⟩
  rcases equal with ⟨branch, rfl, -, -, -, -, -⟩
  have clauses := agree.clauses
  cases where? <;> cases other? <;> simp only [Clause.sameBranch, Bool.false_eq_true] at branch
  · exact .refl _ (fun _ => rfl) .refl
  · next given others =>
      cases given <;> cases others <;> simp only [Clause.sameAll, Bool.false_eq_true] at branch
      · exact .refl _ (fun _ => rfl) .refl
      · next clause rest other others =>
          simp only [Clause.treeBranch] at clauses
          exact Clause.attachAll_corresponds none false (.refl .all)
            (by rw [Clause.sameAll]; exact branch) clauses

theorem SameParts.finish (equal : first.SameParts second) (agree : first.Agree second)
    {collection twin : Collection} (alike : collection.Alike twin) :
    (first.finish collection).Alike (second.finish twin) := by
  have tests : List.Forall₂ Collection.AlikeStep
      (first.test?.toList.map fun test => .keep test.accepts)
      (second.test?.toList.map fun test => .keep test.accepts) := by
    have identities := equal.test
    cases given : first.test? <;> cases also : second.test? <;> rw [given, also] at identities
    · exact .nil
    · contradiction
    · contradiction
    · next test same =>
        have accepts := agree.tests test given same also (Option.some.inj identities)
        simp only [accepts, Option.toList_some, List.map_cons, List.map_nil]
        exact .cons (.keep _) .nil
  rw [finish_eq, finish_eq]
  exact {
    order? := alike.order?
    steps := List.rel_append alike.steps tests
    reversed := by rw [equal.reverse, alike.reversed]
    offset := by rw [equal.offset?, alike.offset]
    limit? := by rw [equal.limit?, alike.limit?] }

theorem SameParts.plan (equal : first.SameParts second) (agree : first.Agree second)
    (schema : TableSchema) :
    Corresponds Eq Collection.Alike (first.plan schema) (second.plan schema) :=
  (equal.selection agree schema).bind fun alike => .ok (equal.finish agree alike)

/-- A projection does the same with collections that are alike. -/
theorem runOn_project_congr {collection twin : Collection} (alike : collection.Alike twin)
    (wanted : Projection) (space : Workspace) :
    Work.runOn (project wanted collection) space = Work.runOn (project wanted twin) space := by
  have rows : collection.rows = twin.rows := funext fun _ => alike.rows
  have keys : collection.keys = twin.keys := by
    funext table
    rw [Collection.keys, Collection.keys, rows]
  cases wanted with
  | erase => rw [project, project, Collection.delete, Collection.delete, keys]
  | count => simp only [project, Collection.count, rows]
  | primaryKeys => rw [project, project, keys]
  | toArray => simp only [project, Collection.records, rows]
  | none => rfl

/-- Running one of two equal descriptors comes to what running the other does. -/
theorem equal_descriptors_agree (equal : first.same second) (agree : first.Agree second)
    (space : Workspace) : Work.runOn first.run space = Work.runOn second.run space := by
  have parts := SameParts.of_same equal
  have plans := parts.plan agree space.table.schema
  rw [runOn_run, runOn_run, ← parts.projection]
  generalize first.plan space.table.schema = planned at plans ⊢
  generalize second.plan space.table.schema = twin at plans ⊢
  cases plans with
  | ok alike => exact runOn_project_congr alike _ space
  | error same => rw [same]

/--
Zeros that differ in their sign equal the same values, and every NaN is shown alike; a text may
be compared with a zero if the sign is the same.
-/
theorem equal_descriptors_agree_on_zeros :
    let counting (zero quiet : Binary64) : Descriptor :=
      let below : List Clause :=
        [.comparison "b" "startsWith" (.float quiet), .comparison "c" "startsWith" (.float ⟨0⟩)]
      let clause : Clause :=
        { Clause.comparison "a" "equals" (.float zero) with and? := some below }
      { Descriptor.all.withClause clause with count := true }
    let first := counting ⟨0⟩ ⟨0x7ff8000000000000⟩
    let second := counting ⟨0x8000000000000000⟩ ⟨0x7ff8000000000001⟩
    let record : Record := .ofList [("a", .integer 0), ("b", .string "NaNs"), ("c", .string "0x")]
    let table : Table := ⟨⟨"t", "id", false, []⟩, ⟨[(.integer 1, record)]⟩, 1⟩
    let space : Workspace := ⟨table, .begin "t" .readOnly⟩
    first.same second ∧
      (Work.runOn first.run space).1.toOption.bind QueryResult.count? = some 1 ∧
      Work.runOn first.run space = Work.runOn second.run space := by
  intro counting first second record table space
  have equal : first.same second := by decide +kernel
  have agree : first.Agree second := by
    refine ⟨?_, nofun⟩
    refine Clause.agree_cons.mpr ⟨.of_values rfl (by decide), ?_⟩
    refine Clause.agree_cons.mpr ⟨.of_zeroless rfl (by decide +kernel) ?_, ?_⟩
    · rintro value ⟨⟩
      decide +kernel
    · exact Clause.agree_cons.mpr ⟨.refl _, nofun⟩
  exact ⟨equal, by decide +kernel, equal_descriptors_agree equal agree space⟩

/-- The same zeros are written "0" and "-0", so equal descriptors select different rows. -/
theorem equal_descriptors_disagree_on_texts :
    let counting (target : Binary64) : Descriptor :=
      { Descriptor.all.withClause (.comparison "a" "startsWith" (.float target)) with
        count := true }
    let table : Table :=
      ⟨⟨"t", "id", false, []⟩, ⟨[(.integer 1, .ofList [("a", .string "0x")])]⟩, 1⟩
    let space : Workspace := ⟨table, .begin "t" .readOnly⟩
    (counting ⟨0⟩).same (counting ⟨0x8000000000000000⟩) ∧
      (Work.runOn (counting ⟨0⟩).run space).1.toOption.bind QueryResult.count? = some 1 ∧
      (Work.runOn (counting ⟨0x8000000000000000⟩).run space).1.toOption.bind
        QueryResult.count? = some 0 := by
  decide +kernel

end Descriptor

end LiveTable
