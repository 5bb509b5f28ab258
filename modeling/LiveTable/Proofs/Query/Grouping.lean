import LiveTable.Proofs.Query.Faults

/-!
# Grouping clauses

A clause of an `and` list may be put into a group of its own, a clause that says nothing and
has the `and` list of that one clause below it.  The plan stays the same unless the list is
still fresh: then a clause that says something ends that for the clauses behind it, but a
group does not, whatever is below it.  So in a list that is not fresh grouping makes no
difference, and every comparison narrows what is selected.

`Clause.Place` is a tree of clauses with one place left open.  What is said of one list is
carried up to the whole tree by induction on the place.
-/

set_option autoImplicit false

namespace LiveTable

namespace Clause

/-- A group that has nothing but the `and` list of one clause. -/
def grouped (clause : Clause) : Clause :=
  { group with and? := some [clause] }

/-- The clause without what it says itself, with the lists below it. -/
def muted (clause : Clause) : Clause :=
  { clause with field? := none, test? := none }

/-- A place in a tree of clauses, given by all that stands around it. -/
inductive Place where
  /-- In the outermost list, between the clauses before and behind it. -/
  | inList (before after : List Clause)
  /-- In the `or` list of a clause, in the place of that list. -/
  | inOr (before : List Clause) (owner : Clause) (inner : Place) (after : List Clause)
  /-- In the `and` list of a clause, in the place of that list. -/
  | inAnd (before : List Clause) (owner : Clause) (inner : Place) (after : List Clause)

namespace Place

/-- The tree with a clause at the place. -/
def fill (content : Clause) : Place → List Clause
  | inList before after => before ++ content :: after
  | inOr before owner inner after =>
    before ++ { owner with or? := some (inner.fill content) } :: after
  | inAnd before owner inner after =>
    before ++ { owner with and? := some (inner.fill content) } :: after

/-- The join of the list that the place is in, given that of the outermost list. -/
def join? (outer? : Option Join) : Place → Option Join
  | inList _ _ => outer?
  | inOr _ _ inner _ => inner.join? (some .or)
  | inAnd _ _ inner _ => inner.join? (some .and)

/--
Whether the list that the place is in is still fresh there: the clause above it is missing,
and no clause before it in the list says anything itself.
-/
def isFresh (outer? : Option Join) (fresh : Bool) : Place → Bool
  | inList before _ => fresh && before.all saysNothing
  | inOr before owner inner _ =>
    inner.isFresh (some .or) (owner.isMissingIn outer? (fresh && before.all saysNothing))
  | inAnd before owner inner _ =>
    inner.isFresh (some .and) (owner.isMissingIn outer? (fresh && before.all saysNothing))

/-- The clauses behind the place in its list. -/
def after : Place → List Clause
  | inList _ after => after
  | inOr _ _ inner _ => inner.after
  | inAnd _ _ inner _ => inner.after

end Place

/-! ## Plans of grouped clauses -/

variable {clause : Clause} {before : Collection} {outer? : Option Join} {fresh : Bool}

/-- A list of clauses is added after the list before it, and is fresh if that says nothing. -/
theorem attachAll_append (join? : Option Join) (fresh : Bool) (before : Collection)
    (first second : List Clause) :
    attachAll join? fresh before (first ++ second) =
      attachAll join? fresh before first >>= fun middle =>
        attachAll join? (fresh && first.all saysNothing) middle second := by
  induction first generalizing fresh before with
  | nil =>
      rw [attachAll, List.nil_append, List.all_nil, Bool.and_true]
      rfl
  | cons clause rest ih =>
      rw [List.cons_append, attachAll, attachAll, bind_assoc]
      congr 1
      funext middle
      rw [ih, fresh_and_isMissingIn, List.all_cons, Bool.and_assoc]

theorem attachTree_withOr (join? : Option Join) (fresh : Bool) (before : Collection)
    (owner : Clause) (clauses : List Clause) :
    attachTree join? fresh before { owner with or? := some clauses } =
      owner.attachOwn join? fresh before >>= fun middle =>
        attachAll (some .or) (owner.isMissingIn join? fresh) middle clauses >>= fun later =>
          attachBranch .and (owner.isMissingIn join? fresh) later owner.and? := by
  rcases owner with ⟨_, _, _, _, _, _, _⟩
  simp only [attachTree, attachBranch]
  rfl

theorem attachTree_withAnd (join? : Option Join) (fresh : Bool) (before : Collection)
    (owner : Clause) (clauses : List Clause) :
    attachTree join? fresh before { owner with and? := some clauses } =
      owner.attachOwn join? fresh before >>= fun middle =>
        attachBranch .or (owner.isMissingIn join? fresh) middle owner.or? >>= fun later =>
          attachAll (some .and) (owner.isMissingIn join? fresh) later clauses := by
  rcases owner with ⟨_, _, _, _, _, _, _⟩
  simp only [attachTree, attachBranch]
  rfl

/-- A group of one clause adds what the clause itself adds to an `and` list. -/
theorem attachTree_grouped (fresh : Bool) (before : Collection) (clause : Clause) :
    attachTree (some .and) fresh before clause.grouped =
      attachTree (some .and) fresh before clause := by
  have inside : attachAll (some .and) fresh before [clause] =
      attachTree (some .and) fresh before clause := by
    rw [attachAll]
    simp only [attachAll]
    exact bind_pure _
  rw [← inside, grouped, group, attachTree]
  simp only [attachBranch]
  cases fresh <;> rfl

/-- What a clause adds that compares nothing does not depend on where it stands. -/
theorem attachOwn_of_comparesNothing (silent : clause.comparedField? = none)
    (join? other? : Option Join) (fresh stale : Bool) (before : Collection) :
    clause.attachOwn join? fresh before = clause.attachOwn other? stale before := by
  have added (join? : Option Join) (fresh : Bool) :
      clause.attachOwn join? fresh before = clause.attach .where before := by
    rw [comparedField?] at silent
    rw [attachOwn, isMissingIn, isMissing, attach, attach]
    cases given : clause.test? with
    | some test => simp
    | none =>
        rw [given] at silent
        simp only [silent]
        split <;> rfl
  rw [added, added]

mutual

/-- A tree that compares nothing adds the same wherever it stands. -/
theorem attachTree_of_comparesNothing (join? other? : Option Join) (fresh stale : Bool)
    (before : Collection) :
    ∀ {clause : Clause}, (∀ below ∈ tree clause, below.comparedField? = none) →
      attachTree join? fresh before clause = attachTree other? stale before clause
  | ⟨field?, operator, value?, parameter?, test?, or?, and?⟩, silent => by
      rw [tree, List.forall_mem_cons, List.forall_mem_append] at silent
      rcases silent with ⟨own, ors, ands⟩
      rw [attachTree, attachTree, attachOwn_of_comparesNothing own join? other? fresh stale]
      congr 1
      funext middle
      rw [attachBranch_of_comparesNothing .or _
        (isMissingIn ⟨field?, operator, value?, parameter?, test?, none, none⟩ other? stale)
        middle ors]
      congr 1
      funext later
      exact attachBranch_of_comparesNothing .and _ _ later ands

/-- The same for a list of clauses. -/
theorem attachAll_of_comparesNothing (join? other? : Option Join) (fresh stale : Bool)
    (before : Collection) :
    ∀ {clauses : List Clause}, (∀ below ∈ treeAll clauses, below.comparedField? = none) →
      attachAll join? fresh before clauses = attachAll other? stale before clauses
  | [], _ => by rw [attachAll, attachAll]
  | clause :: rest, silent => by
      rw [treeAll, List.forall_mem_append] at silent
      rw [attachAll, attachAll,
        attachTree_of_comparesNothing join? other? fresh stale before silent.1]
      congr 1
      funext middle
      exact attachAll_of_comparesNothing join? other? _ _ middle silent.2

/-- The same for a list of clauses that may be absent. -/
theorem attachBranch_of_comparesNothing (join : Join) (fresh stale : Bool) (before : Collection) :
    ∀ {clauses? : Option (List Clause)},
      (∀ below ∈ treeBranch clauses?, below.comparedField? = none) →
      attachBranch join fresh before clauses? = attachBranch join stale before clauses?
  | none, _ => by rw [attachBranch, attachBranch]
  | some clauses, silent => by
      rw [attachBranch, attachBranch]
      exact attachAll_of_comparesNothing _ _ fresh stale before silent

end

/--
Grouping a clause at a place makes no difference: the list is not fresh there, or the clause
says nothing itself, or nothing behind it in the list compares a field.
-/
def Place.Groups (place : Place) (outer? : Option Join) (fresh : Bool) (clause : Clause) : Prop :=
  place.isFresh outer? fresh = false ∨ clause.saysNothing = true ∨
    ∀ later ∈ treeAll place.after, later.comparedField? = none

/-- Clauses in one place that add the same, and both say something or not, may be exchanged. -/
theorem attachAll_around {first second : Clause} {join? : Option Join} {early : List Clause}
    (alike : first.saysNothing = second.saysNothing)
    (same : ∀ middle, attachTree join? (fresh && early.all saysNothing) middle first =
      attachTree join? (fresh && early.all saysNothing) middle second)
    (before : Collection) (late : List Clause) :
    attachAll join? fresh before (early ++ first :: late) =
      attachAll join? fresh before (early ++ second :: late) := by
  rw [attachAll_append, attachAll_append]
  congr 1
  funext middle
  rw [attachAll, attachAll, same, fresh_and_isMissingIn, fresh_and_isMissingIn, alike]

theorem saysNothing_grouped (clause : Clause) : clause.grouped.saysNothing = true :=
  rfl

/-- Grouping a clause of an `and` list leaves what the tree adds, apart from fresh lists. -/
theorem attachAll_fill_grouped (place : Place) (outer? : Option Join) (fresh : Bool)
    (anded : place.join? outer? = some .and) (groups : place.Groups outer? fresh clause)
    (before : Collection) :
    attachAll outer? fresh before (place.fill clause.grouped) =
      attachAll outer? fresh before (place.fill clause) := by
  induction place generalizing outer? fresh before with
  | inList early late =>
      obtain rfl : outer? = some .and := anded
      rw [Place.fill, Place.fill, attachAll_append, attachAll_append]
      congr 1
      funext middle
      rw [attachAll, attachAll, attachTree_grouped, fresh_and_isMissingIn, fresh_and_isMissingIn,
        saysNothing_grouped, Bool.and_true]
      congr 1
      funext further
      -- Behind the group the list is as fresh as before it, behind the clause it may not be.
      rcases groups with stale | saysNothing | comparesNothing
      · rw [Place.isFresh] at stale
        rw [stale, Bool.false_and]
      · rw [saysNothing, Bool.and_true]
      · exact attachAll_of_comparesNothing _ _ _ _ further comparesNothing
  | inOr early owner inner late ih =>
      refine attachAll_around (by rfl) (fun middle => ?_) before late
      rw [attachTree_withOr, attachTree_withOr]
      congr 1
      funext later
      rw [ih (some .or) _ anded groups]
  | inAnd early owner inner late ih =>
      refine attachAll_around (by rfl) (fun middle => ?_) before late
      rw [attachTree_withAnd, attachTree_withAnd]
      congr 1
      funext later
      congr 1
      funext last
      exact ih (some .and) _ anded groups last

end Clause

/-! ## Verdicts within verdicts -/

/-- Both verdicts are defined, and the second lets in all that the first does. -/
inductive Verdict.Within : Verdict → Verdict → Prop where
  | defined {narrow wide : Bool} (implies : narrow = true → wide = true) :
      Within (some narrow) (some wide)

namespace Verdict.Within

variable {first second : Verdict}

theorem of_isSome {verdict : Verdict} (defined : verdict.isSome) : Within verdict verdict := by
  cases verdict with
  | none => contradiction
  | some holds => exact .defined id

theorem isSome (within : Within first second) : first.isSome := by
  cases within
  rfl

theorem admits (within : Within first second) (admitted : first.admits = true) :
    second.admits = true := by
  cases within with
  | defined implies => exact implies admitted

/-- Being selected in one more way keeps verdicts within each other. -/
theorem widen (within : Within first second) (holds : Bool) :
    Within (first.widen holds) (second.widen holds) := by
  cases within with
  | defined implies =>
      refine .defined fun selected => ?_
      simp only [Option.getD_some, Bool.or_eq_true] at selected ⊢
      exact selected.imp_left implies

/-- One more condition keeps verdicts within each other. -/
theorem narrow (within : Within first second) (holds : Bool) :
    Within (first.narrow holds) (second.narrow holds) := by
  cases within with
  | defined implies =>
      refine .defined fun selected => ?_
      simp only [Option.getD_some, Bool.and_eq_true] at selected ⊢
      exact selected.imp_left implies

/-- A condition on top of a defined verdict lets nothing more in. -/
theorem narrow_left (within : Within first second) (holds : Bool) :
    Within (first.narrow holds) second := by
  cases within with
  | defined implies =>
      refine .defined fun selected => implies ?_
      simp only [Option.getD_some, Bool.and_eq_true] at selected
      exact selected.1

end Verdict.Within

namespace Clause

open Verdict (Within)

variable {clause : Clause} {outer? : Option Join} {fresh : Bool} {verdict first second : Verdict}

/-! ## Reading keeps verdicts within each other -/

theorem judgeOwn_within (within : Within first second) (clause : Clause) (join : Join)
    (record : Record) :
    Within (clause.judgeOwn join record first) (clause.judgeOwn join record second) := by
  rw [judgeOwn, judgeOwn]
  cases clause.test? with
  | some test => exact within.narrow _
  | none =>
      cases clause.fieldName? with
      | none => exact within
      | some field =>
          dsimp only
          split
          · exact within.narrow _
          · exact within.widen _

mutual

/-- Reading a tree keeps verdicts within each other. -/
theorem judgeTree_within (record : Record) (join : Join) {first second : Verdict}
    (within : Within first second) :
    ∀ clause : Clause,
      Within (judgeTree record join first clause) (judgeTree record join second clause)
  | ⟨field?, operator, value?, parameter?, test?, or?, and?⟩ => by
      rw [judgeTree, judgeTree]
      have own := judgeOwn_within within
        ⟨field?, operator, value?, parameter?, test?, none, none⟩ join record
      exact judgeBranch_within record .and _ (judgeBranch_within record .or _ own or?) and?

theorem judgeAll_within (record : Record) (join : Join) (fresh : Bool) {first second : Verdict}
    (within : Within first second) :
    ∀ clauses : List Clause,
      Within (judgeAll record join fresh first clauses) (judgeAll record join fresh second clauses)
  | [] => by
      rw [judgeAll, judgeAll]
      exact within
  | clause :: rest => by
      rw [judgeAll, judgeAll]
      exact judgeAll_within record join _ (judgeTree_within record _ within clause) rest

theorem judgeBranch_within (record : Record) (join : Join) (fresh : Bool)
    {first second : Verdict} (within : Within first second) :
    ∀ clauses? : Option (List Clause),
      Within (judgeBranch record join fresh first clauses?)
        (judgeBranch record join fresh second clauses?)
  | none => by
      rw [judgeBranch, judgeBranch]
      exact within
  | some clauses => by
      rw [judgeBranch, judgeBranch]
      exact judgeAll_within record join fresh within clauses

end

/-! ## Defined verdicts -/

/-- What a clause says defines the verdict. -/
theorem judgeOwn_isSome (clause : Clause) (join : Join) (record : Record)
    (defined : verdict.isSome ∨ clause.saysNothing = false) :
    (clause.judgeOwn join record verdict).isSome := by
  rcases defined with defined | speaks
  · exact (judgeOwn_within (.of_isSome defined) clause join record).isSome
  · rw [saysNothing] at speaks
    rw [judgeOwn]
    cases test : clause.test? with
    | some test => rfl
    | none =>
        cases name : clause.fieldName? with
        | none => simp [test, name] at speaks
        | some field =>
            dsimp only
            split <;> rfl

theorem judgeTree_isSome (record : Record) (join : Join) (clause : Clause)
    (defined : verdict.isSome ∨ clause.saysNothing = false) :
    (judgeTree record join verdict clause).isSome := by
  rcases clause with ⟨field?, operator, value?, parameter?, test?, or?, and?⟩
  rw [judgeTree]
  have own := judgeOwn_isSome ⟨field?, operator, value?, parameter?, test?, none, none⟩ join
    record defined
  have ors := judgeBranch_within record .or
    (join = .where && saysNothing ⟨field?, operator, value?, parameter?, test?, none, none⟩)
    (.of_isSome own) or?
  exact (judgeBranch_within record .and _ (.of_isSome ors.isSome) and?).isSome

/-- A clause of a list that says something defines the verdict. -/
theorem judgeAll_isSome (record : Record) (join : Join) (fresh : Bool) (clauses : List Clause)
    (defined : verdict.isSome ∨ clauses.all saysNothing = false) :
    (judgeAll record join fresh verdict clauses).isSome := by
  induction clauses generalizing fresh verdict with
  | nil => simpa [judgeAll] using defined
  | cons clause rest ih =>
      rw [judgeAll]
      apply ih
      rw [List.all_cons, Bool.and_eq_false_iff, ← or_assoc] at defined
      exact defined.imp_left (judgeTree_isSome record _ clause)

/-! ## What a clause of an `and` list adds -/

theorem judgeAll_append (record : Record) (join : Join) (fresh : Bool) (verdict : Verdict)
    (first second : List Clause) :
    judgeAll record join fresh verdict (first ++ second) =
      judgeAll record join (fresh && first.all saysNothing)
        (judgeAll record join fresh verdict first) second := by
  induction first generalizing fresh verdict with
  | nil => rw [judgeAll, List.nil_append, List.all_nil, Bool.and_true]
  | cons clause rest ih =>
      rw [List.cons_append, judgeAll, judgeAll, ih, List.all_cons, Bool.and_assoc]

theorem judgeTree_withOr (record : Record) (join : Join) (verdict : Verdict) (owner : Clause)
    (clauses : List Clause) :
    judgeTree record join verdict { owner with or? := some clauses } =
      judgeBranch record .and (owner.isMissing join)
        (judgeAll record .or (owner.isMissing join) (owner.judgeOwn join record verdict) clauses)
        owner.and? := by
  rw [isMissing_eq]
  rcases owner with ⟨_, _, _, _, _, _, _⟩
  simp only [judgeTree, judgeBranch]
  rfl

theorem judgeTree_withAnd (record : Record) (join : Join) (verdict : Verdict) (owner : Clause)
    (clauses : List Clause) :
    judgeTree record join verdict { owner with and? := some clauses } =
      judgeAll record .and (owner.isMissing join)
        (judgeBranch record .or (owner.isMissing join) (owner.judgeOwn join record verdict)
          owner.or?)
        clauses := by
  rw [isMissing_eq]
  rcases owner with ⟨_, _, _, _, _, _, _⟩
  simp only [judgeTree, judgeBranch]
  rfl

/-- What a clause says in an `and` list lets nothing more in. -/
theorem judgeOwn_and_within (defined : verdict.isSome) (clause : Clause) (record : Record) :
    Within (clause.judgeOwn .and record verdict) verdict := by
  have same : Within verdict verdict := .of_isSome defined
  rw [judgeOwn]
  cases clause.test? with
  | some test => exact same.narrow_left _
  | none =>
      cases clause.fieldName? with
      | none => exact same
      | some field => exact same.narrow_left _

/-- In an `and` list a clause lets nothing in that it would not let in without what it says. -/
theorem judgeTree_muted (record : Record) (defined : verdict.isSome) (clause : Clause) :
    Within (judgeTree record .and verdict clause) (judgeTree record .and verdict clause.muted) := by
  rcases clause with ⟨field?, operator, value?, parameter?, test?, or?, and?⟩
  have own := judgeOwn_and_within defined
    ⟨field?, operator, value?, parameter?, test?, none, none⟩ record
  rw [muted, judgeTree, judgeTree]
  exact judgeBranch_within record .and _ (judgeBranch_within record .or _ own or?) and?

/-- Below a clause the list is fresh, unless there is something to narrow already. -/
theorem isMissing_or_judgeOwn_isSome (owner : Clause) (record : Record)
    (begun : outer? = none ∨ fresh = true ∨ verdict.isSome) :
    owner.isMissingIn outer? fresh = true ∨
      (owner.judgeOwn (joinIn outer? fresh) record verdict).isSome := by
  rw [isMissingIn, isMissing_eq]
  cases speaks : owner.saysNothing with
  | false => exact .inr (judgeOwn_isSome owner _ record (.inr speaks))
  | true =>
      rcases begun with rfl | rfl | defined
      · exact .inl rfl
      · exact .inl (by cases outer? <;> rfl)
      · exact .inr (judgeOwn_isSome owner _ record (.inl defined))

/-- There is something to narrow behind a part of a list that ends that the list is fresh. -/
theorem begun_judgeAll (record : Record) (early : List Clause)
    (begun : outer? = none ∨ fresh = true ∨ verdict.isSome) :
    outer? = none ∨ (fresh && early.all saysNothing) = true ∨
      (judgeAll record (outer?.getD .where) fresh verdict early).isSome := by
  rcases begun with none | rfl | defined
  · exact .inl none
  · rw [Bool.true_and]
    cases silent : early.all saysNothing with
    | true => exact .inr (.inl rfl)
    | false => exact .inr (.inr (judgeAll_isSome record _ _ early (.inr silent)))
  · exact .inr (.inr (judgeAll_isSome record _ _ early (.inl defined)))

/-- A clause in a list lets nothing in that another in its place would not let in. -/
theorem judgeAll_around_within {first second : Clause} (record : Record) {early : List Clause}
    (alike : first.saysNothing = second.saysNothing)
    (within : Within
      (judgeTree record (joinIn outer? (fresh && early.all saysNothing))
        (judgeAll record (outer?.getD .where) fresh verdict early) first)
      (judgeTree record (joinIn outer? (fresh && early.all saysNothing))
        (judgeAll record (outer?.getD .where) fresh verdict early) second))
    (late : List Clause) :
    Within (judgeAll record (outer?.getD .where) fresh verdict (early ++ first :: late))
      (judgeAll record (outer?.getD .where) fresh verdict (early ++ second :: late)) := by
  rw [joinIn_eq] at within
  rw [judgeAll_append, judgeAll_append, judgeAll, judgeAll, alike]
  exact judgeAll_within record _ _ within late

/-- In an `and` list that is not fresh a clause lets nothing in through what it says itself. -/
theorem judgeAll_fill_muted (record : Record) (place : Place) (outer? : Option Join)
    (fresh : Bool) (anded : place.join? outer? = some .and)
    (stale : place.isFresh outer? fresh = false)
    (begun : outer? = none ∨ fresh = true ∨ verdict.isSome) :
    Within (judgeAll record (outer?.getD .where) fresh verdict (place.fill clause))
      (judgeAll record (outer?.getD .where) fresh verdict (place.fill clause.muted)) := by
  induction place generalizing outer? fresh verdict with
  | inList early late =>
      obtain rfl : outer? = some .and := anded
      rw [Place.isFresh] at stale
      have defined := begun_judgeAll record early begun
      -- The list is an and list that is not fresh, so there is a verdict to narrow.
      rw [stale] at defined
      have defined := (defined.resolve_left nofun).resolve_left nofun
      rw [Place.fill, Place.fill, judgeAll_append, judgeAll_append, judgeAll, judgeAll, stale,
        Bool.false_and, Bool.false_and]
      exact judgeAll_within record _ _ (judgeTree_muted record defined clause) late
  | inOr early owner inner late ih =>
      refine judgeAll_around_within record (by rfl) ?_ late
      rw [judgeTree_withOr, judgeTree_withOr]
      have below := isMissing_or_judgeOwn_isSome owner record (begun_judgeAll record early begun)
      exact judgeBranch_within record _ _ (ih (some .or) _ anded stale (.inr below)) owner.and?
  | inAnd early owner inner late ih =>
      refine judgeAll_around_within record (by rfl) ?_ late
      rw [judgeTree_withAnd, judgeTree_withAnd]
      have below := isMissing_or_judgeOwn_isSome owner record (begun_judgeAll record early begun)
      refine ih (some .and) _ anded stale (.inr (below.imp_right fun defined => ?_))
      exact (judgeBranch_within record _ _ (.of_isSome defined) owner.or?).isSome

/-! ## The clauses of a tree with a place -/

theorem treeAll_append (first second : List Clause) :
    treeAll (first ++ second) = treeAll first ++ treeAll second := by
  induction first with
  | nil => simp [treeAll]
  | cons clause rest ih => rw [List.cons_append, treeAll, treeAll, ih, List.append_assoc]

/-- The clauses around a place are the same whatever is at the place. -/
theorem treeAll_fill (place : Place) :
    ∃ front back, ∀ content, treeAll (place.fill content) = front ++ tree content ++ back := by
  induction place with
  | inList early late =>
      refine ⟨treeAll early, treeAll late, fun content => ?_⟩
      rw [Place.fill, treeAll_append, treeAll, List.append_assoc]
  | inOr early owner inner late ih =>
      rcases ih with ⟨front, back, filled⟩
      refine ⟨treeAll early ++ { owner with or? := none, and? := none } :: front,
        back ++ treeBranch owner.and? ++ treeAll late, fun content => ?_⟩
      rw [Place.fill, treeAll_append, treeAll, tree, treeBranch, filled content]
      simp only [List.append_assoc, List.cons_append]
  | inAnd early owner inner late ih =>
      rcases ih with ⟨front, back, filled⟩
      refine ⟨treeAll early ++ { owner with or? := none, and? := none } ::
        (treeBranch owner.or? ++ front), back ++ treeAll late, fun content => ?_⟩
      have branch : treeBranch (some (inner.fill content)) = treeAll (inner.fill content) := by
        rw [treeBranch]
      rw [Place.fill, treeAll_append, treeAll, tree, branch, filled content]
      simp only [List.append_assoc, List.cons_append]

/-- Muting a clause brings no fault into the tree. -/
theorem sound_fill_muted {place : Place}
    (sound : ∀ below ∈ treeAll (place.fill clause), ∀ error, ¬ below.Faulty error) :
    ∀ below ∈ treeAll (place.fill clause.muted), ∀ error, ¬ below.Faulty error := by
  rcases treeAll_fill place with ⟨front, back, filled⟩
  rcases clause with ⟨field?, operator, value?, parameter?, test?, or?, and?⟩
  rw [filled, tree] at sound
  rw [filled, muted, tree]
  simp only [List.forall_mem_append, List.forall_mem_cons] at sound ⊢
  refine ⟨⟨sound.1.1, ?_, sound.1.2.2⟩, sound.2⟩
  intro error faulty
  exact absurd (faulty_iff.mp faulty).1 nofun

end Clause

/-! ## Grouping in the tree of a descriptor -/

namespace Descriptor

open Clause (Place)

variable {clause : Clause}

/-- The descriptor with a tree that has the clause at the place. -/
def filled (descriptor : Descriptor) (place : Place) (content : Clause) : Descriptor :=
  { descriptor with where? := some (place.fill content) }

variable {descriptor : Descriptor} {place : Place}

/-- A list with a place in it is not empty. -/
theorem clauses?_filled (descriptor : Descriptor) (place : Place) (content : Clause) :
    (descriptor.filled place content).clauses? = some (place.fill content) := by
  have nonempty : (place.fill content).isEmpty = false := by
    cases place <;> exact List.isEmpty_eq_false_iff.mpr (List.append_ne_nil_of_right_ne_nil _ nofun)
  rw [clauses?, filled, Option.filter_some_pos (by simpa using nonempty)]

/-- With a group around the clause a descriptor has the plan that it has without the group. -/
theorem plan_grouped (anded : place.join? none = some .and)
    (groups : place.Groups none false clause) (schema : TableSchema) :
    (descriptor.filled place clause.grouped).plan schema =
      (descriptor.filled place clause).plan schema := by
  have same := Clause.attachAll_fill_grouped place none false anded groups .all
  have selection : (descriptor.filled place clause.grouped).selection schema =
      (descriptor.filled place clause).selection schema := by
    rw [Descriptor.selection, Descriptor.selection, clauses?_filled, clauses?_filled]
    exact same
  rw [plan, plan, selection]
  rfl

/-- What a clause says in an `and` list that is not fresh lets no more records in. -/
theorem admits_muted (anded : place.join? none = some .and)
    (stale : place.isFresh none false = false) {schema : TableSchema} {record : Record}
    (admitted : (descriptor.filled place clause).admits schema record = true) :
    (descriptor.filled place clause.muted).admits schema record = true := by
  have within : Verdict.Within (Clause.judgeAll record .where false none (place.fill clause))
      (Clause.judgeAll record .where false none (place.fill clause.muted)) :=
    Clause.judgeAll_fill_muted record place none false anded stale (.inl rfl)
  have judged : Verdict.Within ((descriptor.filled place clause).judge record)
      ((descriptor.filled place clause.muted).judge record) := by
    rw [judge, judge, clauses?_filled, clauses?_filled]
    simp only [filled]
    cases descriptor.test? with
    | none => exact within
    | some test => exact within.narrow _
  rw [admits, Bool.and_eq_true, clauses?_filled] at admitted ⊢
  exact ⟨judged.admits admitted.1, rfl⟩

/-- Without what a clause says there is still a plan, and it selects no fewer rows. -/
theorem selects_muted (anded : place.join? none = some .and)
    (stale : place.isFresh none false = false) {table : Table} (ascending : table.rows.Ascending)
    {collection : Collection}
    (planned : (descriptor.filled place clause).plan table.schema = .ok collection) :
    ∃ wider, (descriptor.filled place clause.muted).plan table.schema = .ok wider ∧
      ∀ row ∈ collection.ordered table, row ∈ wider.ordered table := by
  have sound := Clause.sound_fill_muted (planned_iff.mp ⟨collection, planned⟩)
  obtain ⟨wider, widened⟩ :
      ∃ wider, (descriptor.filled place clause.muted).plan table.schema = .ok wider :=
    planned_iff.mpr sound
  refine ⟨wider, widened, fun row selected => ?_⟩
  rw [selected_iff_admits ascending planned] at selected
  rw [selected_iff_admits ascending widened]
  exact ⟨selected.1, admits_muted anded stale selected.2⟩

/--
In an `and` list that is not fresh, wherever it stands in the tree, grouping a clause makes
no difference and what a clause says itself adds no row.  In a fresh list grouping makes no
difference where the clause says nothing, or where nothing is compared behind it.
-/
theorem and_lists_narrow (descriptor : Descriptor) (clause : Clause)
    (anded : place.join? none = some .and) :
    (place.Groups none false clause →
      (∀ schema, (descriptor.filled place clause.grouped).plan schema =
        (descriptor.filled place clause).plan schema) ∧
      ∀ space, Work.runOn (descriptor.filled place clause.grouped).run space =
        Work.runOn (descriptor.filled place clause).run space) ∧
    (place.isFresh none false = false →
      ∀ (table : Table) (collection : Collection), table.rows.Ascending →
        (descriptor.filled place clause).plan table.schema = .ok collection →
        ∃ wider, (descriptor.filled place clause.muted).plan table.schema = .ok wider ∧
          ∀ row ∈ collection.ordered table, row ∈ wider.ordered table) := by
  constructor
  · intro groups
    have plans (schema : TableSchema) : (descriptor.filled place clause.grouped).plan schema =
        (descriptor.filled place clause).plan schema := plan_grouped anded groups schema
    refine ⟨plans, fun space => ?_⟩
    rw [runOn_run, runOn_run, plans]
    rfl
  · intro stale table collection ascending planned
    exact selects_muted anded stale ascending planned

/-- Below a comparison no list is fresh, so in a group there one more group changes nothing. -/
theorem group_narrows_below_comparison :
    let row (key a : Int64) : Value × Record :=
      (.integer key, .ofList [("a", .integer a), ("b", .integer 1)])
    let table : Table := ⟨⟨"t", "id", false, []⟩, ⟨[row 1 5, row 2 9]⟩, 2⟩
    let space : Workspace := ⟨table, .begin "t" .readOnly⟩
    let clause := Clause.comparison "a" "equals" (.integer 5)
    let place := Place.inAnd [] (.comparison "b" "equals" (.integer 1))
      (.inAnd [] .group (.inList [.comparison "a" "above" (.integer 0)] []) []) []
    let filled (content : Clause) := Descriptor.all.filled place content
    place.join? none = some .and ∧
      Work.runOn (filled clause.grouped).run space = Work.runOn (filled clause).run space ∧
      ∃ collection wider, (filled clause).plan table.schema = .ok collection ∧
        (filled clause.muted).plan table.schema = .ok wider ∧
        row 1 5 ∈ collection.ordered table ∧ row 1 5 ∈ wider.ordered table := by
  intro row table space clause place filled
  have anded : place.join? none = some .and := rfl
  have stale : place.isFresh none false = false := by decide +kernel
  have ascending : table.rows.Ascending :=
    List.pairwise_pair.mpr (show compare (row 1 5).1 (row 2 9).1 = .lt by decide)
  obtain ⟨grouped, muted⟩ := and_lists_narrow Descriptor.all clause anded
  obtain ⟨collection, planned⟩ : ∃ collection, (filled clause).plan table.schema = .ok collection :=
    ⟨_, rfl⟩
  obtain ⟨wider, widened, within⟩ := muted stale table collection ascending planned
  have selected : row 1 5 ∈ collection.ordered table := by
    rw [selected_iff_admits ascending planned]
    exact ⟨by simp [table, Table.scan], by decide +kernel⟩
  exact ⟨anded, (grouped (.inl stale)).2 space, collection, wider, planned, widened, selected,
    within _ selected⟩

/--
Below a missing clause the first comparison ends that the list is fresh, but not if it has a
group around it: then the comparison behind it adds a row instead of taking one away.
-/
theorem group_widens_fresh_list :
    let row : Value × Record := (.integer 1, .ofList [("a", .integer 9), ("b", .integer 1)])
    let table : Table := ⟨⟨"t", "id", false, []⟩, ⟨[row]⟩, 1⟩
    let first := Clause.comparison "a" "equals" (.integer 5)
    let second := Clause.comparison "b" "equals" (.integer 1)
    let place (before after : List Clause) := Place.inAnd [] .group (.inList before after) []
    let counted (place : Place) (content : Clause) :=
      (Work.runOn ({ Descriptor.all with count := true }.filled place content).run
        ⟨table, .begin "t" .readOnly⟩).1.toOption.bind QueryResult.count?
    (place [] [second]).join? none = some .and ∧
      counted (place [] [second]) first = some 0 ∧
      counted (place [] [second]) first.grouped = some 1 ∧
      counted (place [first.grouped] []) second.muted = some 0 ∧
      counted (place [first.grouped] []) second = some 1 := by
  decide +kernel

end Descriptor

end LiveTable
