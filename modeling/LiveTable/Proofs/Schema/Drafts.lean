import LiveTable.Schema.Table
import Mathlib.Data.List.Basic

/-!
# Table schemas put together by calls

A draft is given its primary key and its indexes by calls in any order, each of which checks its
field against what is declared so far.  An index is checked against the indexes and the primary
key, the primary key only against another primary key.  So the calls that lead to a schema are
one declaration of the primary key among declarations of distinct indexes, and the primary
key is one of the indexes just where it was declared as an index first.
-/

set_option autoImplicit false

namespace LiveTable

/-! ## Steps that succeed -/

section Outcomes

variable {Failure α β : Type}

theorem bind_eq_ok_iff {first : Except Failure α} {next : α → Except Failure β} {b : β} :
    first >>= next = .ok b ↔ ∃ a, first = .ok a ∧ next a = .ok b := by
  cases first <;> simp [bind, Except.bind]

theorem pure_eq_ok_iff {a b : α} : (pure a : Except Failure α) = .ok b ↔ b = a := by
  simp [pure, Except.pure, eq_comm]

/-- What is refused under a condition goes on just where the condition fails. -/
theorem refusal_eq_ok_iff {refused : Bool} {failure : Failure} {next : Except Failure α} {a : α} :
    (do if refused then throw failure
        next) = .ok a ↔ refused = false ∧ next = .ok a := by
  cases refused with
  | false => simp
  | true => simp [throw, throwThe, MonadExceptOf.throw, bind, Except.bind]

end Outcomes

/-! ## Names -/

/--
A legal name: a letter, an underscore or a dollar sign, and then these, digits and points.  Letters
and digits are those of ASCII.
-/
def IsName (name : String) : Prop :=
  ∃ first rest, name.toList = first :: rest ∧ (first.isAlpha ∨ first = '_' ∨ first = '$') ∧
    ∀ c ∈ rest, c.isAlphanum ∨ c = '_' ∨ c = '$' ∨ c = '.'

theorem isNameStart_iff {c : Char} : isNameStart c ↔ c.isAlpha ∨ c = '_' ∨ c = '$' := by
  have letters : c.isAlpha = (decide ('A' ≤ c ∧ c ≤ 'Z') || ('a' ≤ c && c ≤ 'z')) := rfl
  simp only [isNameStart, letters, Bool.or_eq_true, Bool.and_eq_true, decide_eq_true_eq]
  tauto

theorem isNamePart_iff {c : Char} :
    isNamePart c ↔ c.isAlphanum ∨ c = '_' ∨ c = '$' ∨ c = '.' := by
  have digits : c.isAlphanum = (c.isAlpha || ('0' ≤ c && c ≤ '9')) := rfl
  simp only [isNamePart, digits, Bool.or_eq_true, isNameStart_iff, Bool.and_eq_true,
    decide_eq_true_eq]
  tauto

theorem checkName_eq_ok_iff {name : String} {u : Unit} : checkName name = .ok u ↔ IsName name := by
  have faultless : checkName name = .ok u ↔ nameFault? name = none := by
    rw [checkName]
    cases nameFault? name <;> simp
  rw [faultless, nameFault?, IsName]
  simp only [← isNameStart_iff, ← isNamePart_iff]
  cases name.toList with
  | nil => simp
  | cons first rest =>
      cases start : isNameStart first with
      | false => simp [start]
      | true =>
          have part : isNamePart first := by rw [isNamePart, start, Bool.true_or, Bool.true_or]
          simp [start, part]

namespace TableDraft

/-! ## Calls on a draft -/

/-- A call on a draft. -/
inductive Call where
  | primaryKey (field : String) (autoIncrement : Bool)
  | index (field : String)

/-- The draft after a call. -/
def Call.apply (draft : TableDraft) : Call → Except SchemaFault TableDraft
  | .primaryKey field autoIncrement => draft.withPrimaryKey field autoIncrement
  | .index field => draft.withIndex field

/-- The schema that calls put together under a name; the first that is refused decides. -/
def build (name : String) (calls : List Call) : Except SchemaFault TableSchema := do
  let draft ← start name
  let draft ← calls.foldlM Call.apply draft
  draft.finish

variable {name field : String} {autoIncrement : Bool} {draft next : TableDraft}
  {schema : TableSchema}

theorem start_eq_ok_iff : start name = .ok draft ↔ IsName name ∧ draft = ⟨name, none, []⟩ := by
  simp only [start, bind_eq_ok_iff, checkName_eq_ok_iff, pure_eq_ok_iff, exists_const]

theorem withPrimaryKey_eq_ok_iff :
    draft.withPrimaryKey field autoIncrement = .ok next ↔
      IsName field ∧ draft.primaryKey? = none ∧
        next = { draft with primaryKey? := some (field, autoIncrement) } := by
  simp only [withPrimaryKey, bind_eq_ok_iff, checkName_eq_ok_iff, refusal_eq_ok_iff,
    pure_eq_ok_iff, exists_const, Option.isSome_eq_false_iff, Option.isNone_iff_eq_none]

theorem withIndex_eq_ok_iff :
    draft.withIndex field = .ok next ↔
      IsName field ∧ draft.declares field = false ∧
        next = { draft with indexes := draft.indexes ++ [field] } := by
  simp only [withIndex, bind_eq_ok_iff, checkName_eq_ok_iff, refusal_eq_ok_iff, pure_eq_ok_iff,
    exists_const]

theorem finish_eq_ok_iff :
    draft.finish = .ok schema ↔
      draft.primaryKey? = some (schema.primaryKey, schema.autoIncrement) ∧
        schema.name = draft.name ∧ schema.indexes = draft.indexes := by
  rcases schema with ⟨name, primaryKey, autoIncrement, indexes⟩
  rw [finish]
  cases draft.primaryKey? with
  | none => simp
  | some declared =>
      rcases declared with ⟨field, allocates⟩
      simp
      tauto

theorem declares_eq_false_iff :
    draft.declares field = false ↔
      field ∉ draft.indexes ∧ ∀ key ∈ draft.primaryKey?, key.1 ≠ field := by
  rw [declares, Bool.or_eq_false_iff]
  cases draft.primaryKey? <;> simp

theorem declares_extended {other : String} :
    { draft with indexes := draft.indexes ++ [field] }.declares other = false ↔
      other ≠ field ∧ draft.declares other = false := by
  simp only [declares_eq_false_iff, List.mem_append, List.mem_singleton]
  tauto

/-! ## Sequences of calls -/

variable {calls : List Call}

/-- Indexes are declared one after another if they are names, distinct and all new. -/
theorem foldlM_indexes_eq_ok_iff {fields : List String} :
    (fields.map Call.index).foldlM Call.apply draft = .ok next ↔
      (∀ field ∈ fields, IsName field ∧ draft.declares field = false) ∧ fields.Nodup ∧
        next = { draft with indexes := draft.indexes ++ fields } := by
  induction fields generalizing draft with
  | nil => simp [pure_eq_ok_iff]
  | cons first rest ih =>
      simp only [List.map_cons, List.foldlM_cons, Call.apply, bind_eq_ok_iff,
        withIndex_eq_ok_iff, ih, and_assoc, exists_and_left, exists_eq_left, declares_extended,
        List.forall_mem_cons, List.nodup_cons, List.append_assoc, List.singleton_append]
      constructor
      · rintro ⟨named, fresh, each, distinct, rfl⟩
        refine ⟨named, fresh, fun field member => ?_, fun member => ?_, distinct, rfl⟩
        · exact ⟨(each field member).1, (each field member).2.2⟩
        · exact (each first member).2.1 rfl
      · rintro ⟨named, fresh, each, apart, distinct, rfl⟩
        refine ⟨named, fresh, fun field member => ?_, distinct, rfl⟩
        exact ⟨(each field member).1, fun same => apart (same ▸ member), (each field member).2⟩

/-- Calls are declarations of indexes up to the first that declares a primary key. -/
theorem split_at_primaryKey (calls : List Call) :
    (∃ fields : List String, calls = fields.map .index) ∨
      ∃ (before : List String) (field : String) (autoIncrement : Bool) (after : List Call),
        calls = before.map .index ++ .primaryKey field autoIncrement :: after := by
  induction calls with
  | nil => exact .inl ⟨[], rfl⟩
  | cons call rest ih =>
      cases call with
      | primaryKey field autoIncrement => exact .inr ⟨[], field, autoIncrement, rest, rfl⟩
      | index field =>
          rcases ih with ⟨fields, rfl⟩ | ⟨before, key, autoIncrement, after, rfl⟩
          · exact .inl ⟨field :: fields, rfl⟩
          · exact .inr ⟨field :: before, key, autoIncrement, after, rfl⟩

/-- Once there is a primary key, only indexes are declared. -/
theorem only_indexes_of_declared (declared : draft.primaryKey?.isSome)
    (folded : calls.foldlM Call.apply draft = .ok next) :
    ∃ fields : List String, calls = fields.map .index := by
  refine (split_at_primaryKey calls).resolve_right ?_
  rintro ⟨before, field, autoIncrement, after, rfl⟩
  simp only [List.foldlM_append, List.foldlM_cons, bind_eq_ok_iff, foldlM_indexes_eq_ok_iff,
    Call.apply, withPrimaryKey_eq_ok_iff] at folded
  rcases folded with ⟨_, ⟨_, _, rfl⟩, _, ⟨_, undeclared, _⟩, _⟩
  rw [undeclared] at declared
  contradiction

/--
Calls lead to a schema just where they are one declaration of the primary key among declarations of
distinct indexes, the later ones not of the primary key, and all these are names.
-/
theorem build_eq_ok_iff :
    build name calls = .ok schema ↔
      IsName name ∧ schema.name = name ∧ IsName schema.primaryKey ∧
        (∀ field ∈ schema.indexes, IsName field) ∧ schema.indexes.Nodup ∧
        ∃ before after : List String,
          calls = before.map .index ++
              .primaryKey schema.primaryKey schema.autoIncrement :: after.map .index ∧
            schema.indexes = before ++ after ∧ schema.primaryKey ∉ after := by
  rcases schema with ⟨_, primaryKey, autoIncrement, indexes⟩
  simp only [build, bind_eq_ok_iff, start_eq_ok_iff, finish_eq_ok_iff]
  constructor
  · rintro ⟨_, ⟨named, rfl⟩, drafted, folded, declared, rfl, rfl⟩
    rcases split_at_primaryKey calls with ⟨fields, rfl⟩ | ⟨before, field, _, rest, rfl⟩
    · rw [foldlM_indexes_eq_ok_iff] at folded
      rcases folded with ⟨_, _, rfl⟩
      contradiction
    · simp only [List.foldlM_append, List.foldlM_cons, bind_eq_ok_iff, foldlM_indexes_eq_ok_iff,
        Call.apply, withPrimaryKey_eq_ok_iff] at folded
      rcases folded with ⟨_, ⟨front, distinct, rfl⟩, _, ⟨keyNamed, _, rfl⟩, folded⟩
      rcases only_indexes_of_declared rfl folded with ⟨after, rfl⟩
      rw [foldlM_indexes_eq_ok_iff] at folded
      rcases folded with ⟨back, distinctBack, rfl⟩
      cases declared
      simp only [declares_eq_false_iff, List.nil_append] at front back
      refine ⟨named, rfl, keyNamed, ?_, ?_, before, after, rfl, rfl, ?_⟩
      · exact List.forall_mem_append.mpr ⟨fun field member => (front field member).1,
          fun field member => (back field member).1⟩
      · refine List.nodup_append.mpr ⟨distinct, distinctBack, ?_⟩
        rintro field earlier _ later rfl
        exact (back field later).2.1 earlier
      · exact fun member => (back primaryKey member).2.2 _ rfl rfl
  · rintro ⟨named, rfl, keyNamed, eachNamed, distinct, before, after, rfl, rfl, apart⟩
    rcases List.forall_mem_append.mp eachNamed with ⟨frontNamed, backNamed⟩
    rcases List.nodup_append.mp distinct with ⟨frontDistinct, backDistinct, disjoint⟩
    refine ⟨_, ⟨named, rfl⟩, ⟨_, some (primaryKey, autoIncrement), before ++ after⟩, ?_, rfl, rfl,
      rfl⟩
    simp only [List.foldlM_append, List.foldlM_cons, bind_eq_ok_iff, foldlM_indexes_eq_ok_iff,
      Call.apply, withPrimaryKey_eq_ok_iff, declares_eq_false_iff]
    refine ⟨_, ⟨fun field member => ⟨frontNamed field member, ?_⟩, frontDistinct, rfl⟩, _,
      ⟨keyNamed, rfl, rfl⟩, fun field member => ⟨backNamed field member, ?_, ?_⟩, backDistinct, rfl⟩
    · exact ⟨List.not_mem_nil, fun _ none => by cases none⟩
    · exact fun earlier => disjoint field earlier field member rfl
    · rintro _ ⟨⟩ rfl
      exact apart member

/-- Of a field, an index call comes before the one primary key call if it is among the first. -/
theorem index_before_primaryKey_iff {before after : List String} :
    List.Sublist [.index field, .primaryKey field autoIncrement]
        (before.map Call.index ++ .primaryKey field autoIncrement :: after.map .index) ↔
      field ∈ before := by
  constructor
  · intro ordered
    induction before with
    | nil =>
        cases ordered with
        | cons _ later =>
            have member := later.subset (List.mem_cons_of_mem _ List.mem_cons_self)
            rcases List.mem_map.mp member with ⟨_, _, impossible⟩
            contradiction
    | cons first rest ih =>
        cases ordered with
        | cons _ later => exact List.mem_cons_of_mem _ (ih later)
        | cons_cons => exact List.mem_cons_self
  · intro member
    have earlier : List.Sublist [Call.index field] (before.map .index) :=
      List.singleton_sublist.mpr (List.mem_map_of_mem member)
    exact earlier.append ((List.nil_sublist _).cons_cons _)

/--
Whatever calls lead to a schema, its name, its primary key and its indexes are names and no two
indexes are the same.  The primary key is one of the indexes just where a call that declares it as
an index comes before the call that declares it as the primary key.
-/
theorem built_schemas_well_formed (built : build name calls = .ok schema) :
    schema.name = name ∧ IsName schema.name ∧ IsName schema.primaryKey ∧
      (∀ field ∈ schema.indexes, IsName field) ∧ schema.indexes.Nodup ∧
      (schema.primaryKey ∈ schema.indexes ↔
        List.Sublist [.index schema.primaryKey,
          .primaryKey schema.primaryKey schema.autoIncrement] calls) := by
  rcases build_eq_ok_iff.mp built with
    ⟨named, rfl, keyNamed, eachNamed, distinct, before, after, rfl, indexes, apart⟩
  refine ⟨rfl, named, keyNamed, eachNamed, distinct, ?_⟩
  rw [indexes, List.mem_append, or_iff_left apart, index_before_primaryKey_iff]

/-- A schema whose indexes are declared before and after its primary key, which is none of them. -/
theorem built_around_primaryKey :
    let calls : List Call := [.index "name", .primaryKey "$id" true, .index "address.city"]
    build "friends" calls = .ok ⟨"friends", "$id", true, ["name", "address.city"]⟩ ∧
      ["name", "address.city"].Nodup ∧
      ("$id" ∈ ["name", "address.city"] ↔
        List.Sublist [.index "$id", .primaryKey "$id" true] calls) := by
  intro calls
  have built : build "friends" calls =
      .ok ⟨"friends", "$id", true, ["name", "address.city"]⟩ := by decide +kernel
  rcases built_schemas_well_formed built with ⟨_, _, _, _, distinct, earlier⟩
  exact ⟨built, distinct, earlier⟩

/-- A field that is an index already can be declared the primary key, and is both then. -/
theorem index_becomes_primaryKey :
    build "t" [.index "a", .primaryKey "a" false] = .ok ⟨"t", "a", false, ["a"]⟩ ∧
      build "t" [.primaryKey "a" false, .index "a"] = .error (.repeatedIndex "a") := by
  decide +kernel

end TableDraft

end LiveTable
