import LiveTable.Proofs.Json.Structures
import LiveTable.Proofs.Query.Congruence

/-!
# Descriptors read back

A descriptor without tests is written as a text that is read as the same descriptor, but
for values that are null: they are read as absent.  Nothing depends on that.  An operand
that is null and one that is absent are coerced alike, and so are the parameters of tests,
so the descriptor that is read describes the same collection on every table.
-/

set_option autoImplicit false

namespace LiveTable

open Json (Denotes ConveysPart)

namespace Clause

/-! ## Null values left out -/

mutual

/-- The clause, and all clauses below it, with nothing in the place of null values. -/
def withoutNulls : Clause → Clause
  | ⟨field?, operator, value?, parameter?, test?, or?, and?⟩ =>
    ⟨field?, operator, value?.filter (!·.isNull), parameter?.filter (!·.isNull), test?,
      withoutNullsBranch or?, withoutNullsBranch and?⟩

def withoutNullsBranch : Option (List Clause) → Option (List Clause)
  | none => none
  | some clauses => some (withoutNullsAll clauses)

def withoutNullsAll : List Clause → List Clause
  | [] => []
  | clause :: rest => withoutNulls clause :: withoutNullsAll rest

end

/--
A clause that can be written and read: there are no tests, values can be read and hold finite
numbers only, and containers are nested to at most `depth` levels.
-/
inductive Interchangeable : Nat → Clause → Prop
  | mk {depth : Nat} {field? : Option String} {operator : String} {value? parameter? : Option Value}
    {or? and? : Option (List Clause)}
    (value : ∀ value, value? = some value → value.Interchangeable depth ∧ value.isFinite)
    (parameter : ∀ value, parameter? = some value → value.Interchangeable depth ∧ value.isFinite)
    (room : or?.isSome ∨ and?.isSome → 0 < depth)
    (either : ∀ clauses, or? = some clauses →
      ∀ clause ∈ clauses, Interchangeable (depth - 1) clause)
    (both : ∀ clauses, and? = some clauses →
      ∀ clause ∈ clauses, Interchangeable (depth - 1) clause) :
    Interchangeable (depth + 1) ⟨field?, operator, value?, parameter?, none, or?, and?⟩

/-! ## Texts of clauses -/

/-- A text is read as a clause where at most `depth` levels may be nested. -/
def Conveyed (depth : Nat) (text : List Char) (clause : Clause) : Prop :=
  ∃ tree, Denotes text tree ∧ read? depth tree = some clause

theorem conveys_branch (name : String) {depth : Nat} {branch? : Option (List Clause)}
    (room : branch?.isSome → 0 < depth)
    (each : ∀ clauses, branch? = some clauses → ∀ clause ∈ clauses,
      Conveyed (depth - 1) clause.written clause.withoutNulls) :
    ConveysPart name (Json.readPart? (Json.readOptional? (readAll? depth)) none)
      (writtenBranch name branch?) (withoutNullsBranch branch?) := by
  cases branch? with
  | none => exact ⟨none, .absent, rfl⟩
  | some clauses =>
      have trees : ∃ trees, List.Forall₂ Denotes (writtenAll clauses) trees ∧
          trees.mapM (read? (depth - 1)) = some (withoutNullsAll clauses) := by
        have all := each clauses rfl
        clear each
        induction clauses with
        | nil => exact ⟨[], .nil, rfl⟩
        | cons clause rest ih =>
            rcases all clause List.mem_cons_self with ⟨tree, denoted, read⟩
            rcases ih room fun other later => all other (List.mem_cons_of_mem _ later)
              with ⟨trees, others, readOthers⟩
            refine ⟨tree :: trees, .cons denoted others, ?_⟩
            simp [List.mapM_cons, read, readOthers, withoutNullsAll]
      rcases trees with ⟨trees, denoted, read⟩
      refine ⟨some (.array trees), .present (Json.denotes_array denoted), ?_⟩
      have some_depth : depth ≠ 0 := Nat.pos_iff_ne_zero.mp (room rfl)
      simp [Json.readPart?, Json.readOptional?, readAll?, some_depth, read, withoutNullsBranch]

/-- Reads a clause whose lists are read by `readList`. -/
def readWith? (readList : Json.Tree → Option (List Clause)) (depth : Nat) (tree : Json.Tree) :
    Option Clause := do
  let parts ← Json.structureParts? fieldNames tree
  let part (position : Nat) : Option Json.Tree := (parts[position]?).join
  let readValue := Json.readOptional? (Json.readValue? depth)
  let field? ← Json.readPart? (Json.readOptional? Json.readString?) none (part 0)
  let operator ← Json.readPart? Json.readString? "" (part 1)
  let value? ← Json.readPart? readValue none (part 2)
  let parameter? ← Json.readPart? readValue none (part 3)
  let or? ← Json.readPart? (Json.readOptional? readList) none (part 4)
  let and? ← Json.readPart? (Json.readOptional? readList) none (part 5)
  pure ⟨field?, operator, value?, parameter?, none, or?, and?⟩

/-- The lists below a clause are read as lists of clauses are read elsewhere. -/
theorem read?_succ (depth : Nat) (tree : Json.Tree) :
    read? (depth + 1) tree = readWith? (readAll? depth) depth tree := by
  rw [read?]
  refine congrArg (readWith? · depth tree) (funext fun below => ?_)
  cases depth <;> cases below <;> rfl

/-- A clause is read if each of its fields is. -/
theorem read?_of_parts {depth : Nat} {tree : Json.Tree} {first second third fourth fifth sixth :
    Option Json.Tree} {field? : Option String} {operator : String}
    {value? parameter? : Option Value} {or? and? : Option (List Clause)}
    (found : Json.structureParts? fieldNames tree =
      some [first, second, third, fourth, fifth, sixth])
    (readField : Json.readPart? (Json.readOptional? Json.readString?) none first = some field?)
    (readOperator : Json.readPart? Json.readString? "" second = some operator)
    (readValue : Json.readPart? (Json.readOptional? (Json.readValue? depth)) none third =
      some value?)
    (readParameter : Json.readPart? (Json.readOptional? (Json.readValue? depth)) none fourth =
      some parameter?)
    (readOr : Json.readPart? (Json.readOptional? (readAll? depth)) none fifth = some or?)
    (readAnd : Json.readPart? (Json.readOptional? (readAll? depth)) none sixth = some and?) :
    read? (depth + 1) tree = some ⟨field?, operator, value?, parameter?, none, or?, and?⟩ := by
  rw [read?_succ, readWith?, found]
  simp [readField, readOperator, readValue, readParameter, readOr, readAnd]

/-- The text of a clause is read as the clause without its null values. -/
theorem conveyed_written {depth : Nat} {clause : Clause} (fits : clause.Interchangeable depth) :
    Conveyed depth clause.written clause.withoutNulls := by
  induction fits with
  | @mk depth field? operator value? parameter? or? and? values parameters room _ _ either both =>
      have conveys (value : Value) (fit : value.Interchangeable depth ∧ value.isFinite) :
          Json.Conveys depth (Json.writtenValue value) value := by
        have conveyed := Json.conveys_value fit.1
        rwa [Value.interchanged_of_isFinite value fit.2] at conveyed
      rcases Json.conveys_optional_string "field" field? with ⟨field, writtenField, readField⟩
      rcases Json.conveys_string "operator" "" operator
        with ⟨operation, writtenOperator, readOperator⟩
      rcases Json.conveys_optional_value "value" fun value given => conveys value (values value given)
        with ⟨value, writtenValue, readValue⟩
      rcases Json.conveys_optional_value "param" fun value given =>
        conveys value (parameters value given) with ⟨parameter, writtenParameter, readParameter⟩
      rcases conveys_branch "or" (fun given => room (.inl given)) either
        with ⟨or, writtenOr, readOr⟩
      rcases conveys_branch "and" (fun given => room (.inr given)) both
        with ⟨and, writtenAnd, readAnd⟩
      obtain ⟨tree, denoted, found⟩ := Json.denotes_structure fieldNames
        [("field", field), ("operator", operation), ("value", value), ("param", parameter),
          ("or", or), ("and", and)]
        (by decide)
        (.cons writtenField (.cons writtenOperator (.cons writtenValue (.cons writtenParameter
          (.cons writtenOr (.cons writtenAnd .nil)))))) rfl
      refine ⟨tree, ?_, read?_of_parts found readField readOperator readValue readParameter readOr
        readAnd⟩
      simpa [written] using denoted

/-! ## What null values leave unchanged -/

/-- Whether a clause holds a value that is null, the clauses below it aside. -/
def HoldsNull (clause : Clause) : Prop :=
  clause.value? = some .null ∨ clause.parameter? = some .null

theorem filter_isNull {value? : Option Value} (other : value? ≠ some .null) :
    value?.filter (!·.isNull) = value? := by
  rcases value? with _ | value
  · rfl
  · cases value <;> first | rfl | exact absurd rfl other

mutual

/-- A clause without null values stays what it is. -/
theorem withoutNulls_of_tree (clause : Clause) (full : ∀ part ∈ clause.tree, ¬ part.HoldsNull) :
    clause.withoutNulls = clause := by
  rcases clause with ⟨field?, operator, value?, parameter?, test?, or?, and?⟩
  simp only [tree, List.forall_mem_cons, List.forall_mem_append] at full
  rcases full with ⟨own, either, both⟩
  rw [HoldsNull, not_or] at own
  rw [withoutNulls, filter_isNull own.1, filter_isNull own.2,
    withoutNullsBranch_of_tree or? either, withoutNullsBranch_of_tree and? both]

theorem withoutNullsBranch_of_tree (branch? : Option (List Clause))
    (full : ∀ part ∈ treeBranch branch?, ¬ part.HoldsNull) :
    withoutNullsBranch branch? = branch? := by
  cases branch? with
  | none => rfl
  | some clauses => rw [withoutNullsBranch, withoutNullsAll_of_tree clauses full]

theorem withoutNullsAll_of_tree (clauses : List Clause)
    (full : ∀ part ∈ treeAll clauses, ¬ part.HoldsNull) : withoutNullsAll clauses = clauses := by
  cases clauses with
  | nil => rfl
  | cons clause rest =>
      simp only [treeAll, List.forall_mem_append] at full
      rw [withoutNullsAll, withoutNulls_of_tree clause full.1, withoutNullsAll_of_tree rest full.2]

end

/-! ## Equality -/

theorem sameValue?_refl (value? : Option Value) : sameValue? value? value? := by
  cases value? <;> simp [sameValue?]

theorem sameTest?_refl (test? : Option ParameterTest) : sameTest? test? test? := by
  cases test? <;> simp [sameTest?]

mutual

theorem same_refl (clause : Clause) : clause.same clause := by
  rcases clause with ⟨field?, operator, value?, parameter?, test?, or?, and?⟩
  simp [same, sameValue?_refl, sameTest?_refl, sameBranch_refl or?, sameBranch_refl and?]

theorem sameBranch_refl (branch? : Option (List Clause)) : sameBranch branch? branch? := by
  cases branch? with
  | none => rfl
  | some clauses => exact sameAll_refl clauses

theorem sameAll_refl (clauses : List Clause) : sameAll clauses clauses := by
  cases clauses with
  | nil => rfl
  | cons clause rest => rw [sameAll, same_refl clause, sameAll_refl rest, Bool.and_self]

end

/-! ## Plans -/

/-- A condition does not tell a null operand from an absent one. -/
theorem ofComparison_withoutNull (operator : String) (value? : Option Value) :
    Condition.ofComparison operator (value?.filter (!·.isNull)) =
      Condition.ofComparison operator value? := by
  have coerced : Operand.coerce (value?.filter (!·.isNull)) = Operand.coerce value? := by
    rcases value? with _ | value
    · rfl
    · cases value <;> rfl
  rw [Condition.ofComparison, Condition.ofComparison, coerced]

theorem getD_withoutNull (parameter? : Option Value) :
    (parameter?.filter (!·.isNull)).getD .null = parameter?.getD .null := by
  rcases parameter? with _ | value
  · rfl
  · cases value <;> rfl

/-- A clause joins a collection as it does without its null values. -/
theorem attachOwn_withoutNulls (clause : Clause) (join? : Option Join) (fresh : Bool)
    (collection : Collection) :
    clause.withoutNulls.attachOwn join? fresh collection =
      clause.attachOwn join? fresh collection := by
  rcases clause with ⟨field?, operator, value?, parameter?, test?, or?, and?⟩
  simp only [attachOwn, attach, withoutNulls, ofComparison_withoutNull, getD_withoutNull]
  rfl

theorem isMissingIn_withoutNulls (clause : Clause) (join? : Option Join) (fresh : Bool) :
    clause.withoutNulls.isMissingIn join? fresh = clause.isMissingIn join? fresh := by
  cases clause
  rfl

mutual

/-- The steps of a clause, and of all clauses below it, are those without its null values. -/
theorem attachTree_withoutNulls (clause : Clause) (join? : Option Join) (fresh : Bool)
    (collection : Collection) :
    attachTree join? fresh collection clause.withoutNulls =
      attachTree join? fresh collection clause := by
  rcases clause with ⟨field?, operator, value?, parameter?, test?, or?, and?⟩
  let own : Clause := ⟨field?, operator, value?, parameter?, test?, none, none⟩
  have missing := own.isMissingIn_withoutNulls join? fresh
  have attached := own.attachOwn_withoutNulls join? fresh collection
  simp only [withoutNulls, withoutNullsBranch, own] at missing attached
  simp only [withoutNulls, attachTree, missing, attached, attachBranch_withoutNulls or?,
    attachBranch_withoutNulls and?]

theorem attachBranch_withoutNulls (branch? : Option (List Clause)) (join : Join) (fresh : Bool)
    (collection : Collection) :
    attachBranch join fresh collection (withoutNullsBranch branch?) =
      attachBranch join fresh collection branch? := by
  cases branch? with
  | none => rfl
  | some clauses => exact attachAll_withoutNulls clauses (some join) fresh collection

theorem attachAll_withoutNulls (clauses : List Clause) (join? : Option Join) (fresh : Bool)
    (collection : Collection) :
    attachAll join? fresh collection (withoutNullsAll clauses) =
      attachAll join? fresh collection clauses := by
  cases clauses with
  | nil => rfl
  | cons clause rest =>
      simp only [withoutNullsAll, attachAll, attachTree_withoutNulls clause,
        isMissingIn_withoutNulls, attachAll_withoutNulls rest]

end

end Clause

namespace Descriptor

/-- The descriptor with nothing in the place of null values. -/
def withoutNulls (descriptor : Descriptor) : Descriptor :=
  { descriptor with where? := Clause.withoutNullsBranch descriptor.where? }

/-- A descriptor that can be written and read: its window is given in 64-bit numbers. -/
structure Interchangeable (descriptor : Descriptor) : Prop where
  test : descriptor.test? = none
  clauses : ∀ clauses, descriptor.where? = some clauses →
    ∀ clause ∈ clauses, clause.Interchangeable (Json.depthLimit - 2)
  offset : ∀ count, descriptor.offset? = some count → count < Json.wordLimit
  limit : ∀ count, descriptor.limit? = some count → count < Json.wordLimit

theorem same_refl (descriptor : Descriptor) : descriptor.same descriptor := by
  simp [same, Clause.sameBranch_refl]

/-- The text of a descriptor is read as the descriptor without its null values. -/
theorem ofText?_written {descriptor : Descriptor} (fits : descriptor.Interchangeable) :
    ofText? descriptor.written = some descriptor.withoutNulls := by
  rcases descriptor with ⟨where?, orderBy?, reverse, offset?, limit?, test?, count, primaryKeys,
    erase, toArray⟩
  rcases fits with ⟨rfl, clauses, offset, limit⟩
  have room : where?.isSome → 0 < Json.depthLimit - 1 := fun _ => by decide
  rcases Clause.conveys_branch "where" room
    (fun list given clause member => Clause.conveyed_written (clauses list given clause member))
    with ⟨clauses, writtenClauses, readClauses⟩
  rcases Json.conveys_optional_string "orderBy" orderBy? with ⟨order, writtenOrder, readOrder⟩
  rcases Json.conveys_optional_nat "offset" offset with ⟨first, writtenOffset, readOffset⟩
  rcases Json.conveys_optional_nat "limit" limit with ⟨last, writtenLimit, readLimit⟩
  rcases Json.conveys_flag "reverse" false reverse with ⟨turned, writtenReverse, readReverse⟩
  rcases Json.conveys_flag "count" false count with ⟨counted, writtenCount, readCount⟩
  rcases Json.conveys_flag "primaryKeys" false primaryKeys with ⟨keys, writtenKeys, readKeys⟩
  rcases Json.conveys_flag "erase" false erase with ⟨erased, writtenErase, readErase⟩
  rcases Json.conveys_flag "toArray" true toArray with ⟨array, writtenArray, readArray⟩
  obtain ⟨tree, denoted, found⟩ := Json.denotes_structure fieldNames
    [("where", clauses), ("orderBy", order), ("reverse", turned), ("offset", first),
      ("limit", last), ("count", counted), ("primaryKeys", keys), ("erase", erased),
      ("toArray", array)]
    (by decide)
    (.cons writtenClauses (.cons writtenOrder (.cons writtenReverse (.cons writtenOffset
      (.cons writtenLimit (.cons writtenCount (.cons writtenKeys (.cons writtenErase
        (.cons writtenArray .nil))))))))) rfl
  have text : Denotes (written ⟨where?, orderBy?, reverse, offset?, limit?, none, count,
      primaryKeys, erase, toArray⟩) tree := by
    simpa [written] using denoted
  rw [ofText?, Json.parse?_of_denotes text, Option.bind_some, read?, found]
  simp [readClauses, readOrder, readReverse, readOffset, readLimit, readCount, readKeys, readErase,
    readArray, withoutNulls]

/-- The plan of a descriptor is the plan without its null values. -/
theorem plan_withoutNulls (descriptor : Descriptor) (schema : TableSchema) :
    descriptor.withoutNulls.plan schema = descriptor.plan schema := by
  have clauses : descriptor.withoutNulls.clauses? =
      descriptor.clauses?.map Clause.withoutNullsAll := by
    rcases descriptor with ⟨_ | clauses, orderBy?, reverse, offset?, limit?, test?, count,
      primaryKeys, erase, toArray⟩
    · rfl
    · cases clauses <;> rfl
  have selection : descriptor.withoutNulls.selection schema = descriptor.selection schema := by
    rw [Descriptor.selection, Descriptor.selection, clauses]
    cases descriptor.clauses? with
    | none => rfl
    | some clauses => exact Clause.attachAll_withoutNulls clauses none false .all
  rw [plan, plan, selection]
  rfl

/-- A descriptor without its null values runs like the descriptor on every table. -/
theorem run_withoutNulls (descriptor : Descriptor) :
    descriptor.withoutNulls.run = descriptor.run := by
  unfold run
  simp only [plan_withoutNulls]
  rfl

/--
A descriptor without tests reads back as it was written, with every null value of a clause left
out; it equals the one that was written if there is none, and runs like it in any case.
-/
theorem reads_back (descriptor : Descriptor) (fits : descriptor.Interchangeable) :
    ofText? descriptor.written = some descriptor.withoutNulls ∧
      ((∀ clause ∈ Clause.treeBranch descriptor.where?, ¬ clause.HoldsNull) →
        descriptor.withoutNulls.same descriptor) ∧
      descriptor.withoutNulls.run = descriptor.run := by
  refine ⟨ofText?_written fits, fun full => ?_, run_withoutNulls descriptor⟩
  have unchanged : descriptor.withoutNulls = descriptor := by
    rw [withoutNulls, Clause.withoutNullsBranch_of_tree _ full]
  rw [unchanged]
  exact same_refl descriptor

/-- A comparison with null beside one with numbers of both variants, and a window. -/
theorem nested_descriptor_reads_back :
    let listed := Clause.comparison "b" "anyOf" (.array [.integer 1, .float ⟨0x3fe0000000000000⟩])
    let descriptor (value? : Option Value) : Descriptor :=
      { all with
        where? := some [{ Clause.group with
          field? := some "a", operator := "equals", value? := value?, or? := some [listed] }]
        offset? := some 1
        limit? := some 18446744073709551615 }
    ofText? (descriptor (some .null)).written = some (descriptor none) ∧
      (descriptor none).run = (descriptor (some .null)).run ∧
      ofText? (descriptor (some (.integer 5))).written = some (descriptor (some (.integer 5))) ∧
      (descriptor (some (.integer 5))).same (descriptor (some (.integer 5))) := by
  intro listed descriptor
  have half : Binary64.ReadsBack ⟨0x3fe0000000000000⟩ :=
    ⟨⟨false, ['0'], ['5'], none⟩, by decide +kernel, rfl, by decide +kernel⟩
  have list (depth : Nat) : Value.Interchangeable (depth + 1)
      (.array [.integer 1, .float ⟨0x3fe0000000000000⟩]) := by
    refine .array ?_
    simp only [List.forall_mem_cons, List.not_mem_nil, false_implies, implies_true, and_true]
    exact ⟨.integer _ 1, .float _ fun _ => half⟩
  have below (depth : Nat) : listed.Interchangeable (depth + 2) := by
    refine .mk ?_ (by simp [Clause.group]) (by simp) (by simp [Clause.group])
      (by simp [Clause.group])
    rintro value ⟨⟩
    exact ⟨list depth, by decide⟩
  have fits (value : Value) (fit : ∀ depth, value.Interchangeable depth) (finite : value.isFinite) :
      (descriptor (some value)).Interchangeable := by
    refine ⟨rfl, ?_, by rintro count ⟨⟩; decide, by rintro count ⟨⟩; decide⟩
    rintro clauses ⟨⟩ clause member
    rw [List.mem_singleton] at member
    subst member
    show Clause.Interchangeable (124 + 1) _
    refine .mk ?_ (by simp [Clause.group]) (by decide) ?_ (by simp [Clause.group])
    · rintro value ⟨⟩
      exact ⟨fit _, finite⟩
    · rintro clauses ⟨⟩ clause member
      rw [List.mem_singleton] at member
      subst member
      exact below _
  have null := reads_back (descriptor (some .null)) (fits .null .null rfl)
  have five := reads_back (descriptor (some (.integer 5)))
    (fits (.integer 5) (fun depth => .integer depth 5) rfl)
  refine ⟨null.1, null.2.2, five.1, five.2.1 ?_⟩
  simp [descriptor, listed, Clause.treeBranch, Clause.treeAll, Clause.tree, Clause.HoldsNull,
    Clause.group, Clause.comparison]

end Descriptor

end LiveTable
