import LiveTable.Proofs.Query.Numerals
import LiveTable.Proofs.Schema.Drafts
import Mathlib.Data.List.Forall2

/-!
# Table schemas read from declarations

A declaration is read entry by entry as calls on a draft, the primary key first.  What it
declares is said here without reading it: the entries that stand between its commas are the name of
the primary key, with the mark of allocated keys in front of it or without, and names of
indexes with any markers in front of them.  A schema that is declared by some text is also declared
by the text that lists its own fields.
-/

set_option autoImplicit false

namespace LiveTable

namespace Text

variable {text core : List Char}

/-- A text drops what it begins with until a character is not to be dropped. -/
theorem dropWhile_eq_iff {dropped : Char → Bool} :
    text.dropWhile dropped = core ↔
      ∃ front, text = front ++ core ∧ (∀ c ∈ front, dropped c) ∧
        ∀ c ∈ core.head?, dropped c = false := by
  constructor
  · rintro rfl
    refine ⟨text.takeWhile dropped, List.takeWhile_append_dropWhile.symm,
      fun _ => List.mem_takeWhile_imp, fun c first => ?_⟩
    have kept := List.head?_dropWhile_not dropped text
    rw [Option.mem_def.mp first] at kept
    exact kept
  · rintro ⟨front, rfl, blank, first⟩
    rw [List.dropWhile_append_of_pos blank]
    cases core with
    | nil => rfl
    | cons c rest =>
        have kept : dropped c = false := first c rfl
        rw [List.dropWhile_cons_of_neg (Bool.eq_false_iff.mp kept)]

/-- A text with blanks around it, or none, and no blank at an end of its own. -/
def Trims (text core : List Char) : Prop :=
  ∃ front back, text = front ++ core ++ back ∧ (∀ c ∈ front, isBlank c) ∧
    (∀ c ∈ back, isBlank c) ∧ (∀ c ∈ core.head?, isBlank c = false) ∧
    ∀ c ∈ core.getLast?, isBlank c = false

theorem trimEnd_eq_iff :
    trimEnd text = core ↔
      ∃ back, text = core ++ back ∧ (∀ c ∈ back, isBlank c) ∧
        ∀ c ∈ core.getLast?, isBlank c = false := by
  rw [trimEnd, List.reverse_eq_iff, dropWhile_eq_iff, List.head?_reverse]
  constructor
  · rintro ⟨front, reversed, blank, last⟩
    refine ⟨front.reverse, ?_, fun c member => blank c (List.mem_reverse.mp member), last⟩
    rw [← List.reverse_reverse text, reversed, List.reverse_append, List.reverse_reverse]
  · rintro ⟨back, rfl, blank, last⟩
    exact ⟨back.reverse, List.reverse_append, fun c member => blank c (List.mem_reverse.mp member),
      last⟩

theorem trim_eq_iff : trim text = core ↔ Trims text core := by
  rw [trim, trimEnd_eq_iff]
  constructor
  · rintro ⟨back, started, blankBack, last⟩
    rcases dropWhile_eq_iff.mp started with ⟨front, rfl, blankFront, first⟩
    refine ⟨front, back, (List.append_assoc ..).symm, blankFront, blankBack, ?_, last⟩
    exact fun c member => first c (by rw [List.head?_append, Option.mem_def.mp member]; rfl)
  · rintro ⟨front, back, rfl, blankFront, blankBack, first, last⟩
    cases core with
    | nil =>
        -- nothing is left, so that all blanks go at the start
        refine ⟨[], dropWhile_eq_iff.mpr ⟨front ++ back, ?_, ?_, by simp⟩, by simp, by simp⟩
        · simp
        · exact List.forall_mem_append.mpr ⟨blankFront, blankBack⟩
    | cons c rest =>
        refine ⟨back, dropWhile_eq_iff.mpr ⟨front, List.append_assoc .., blankFront, ?_⟩, blankBack,
          last⟩
        rintro _ ⟨⟩
        exact first c rfl

theorem trims_self (solid : ∀ c ∈ text, isBlank c = false) : Trims text text :=
  ⟨[], [], by simp, by simp, by simp, fun c first => solid c (List.mem_of_mem_head? first),
    fun c last => solid c (List.mem_of_mem_getLast? last)⟩

end Text

/-! ## The characters of names -/

theorem isNamePart_bounds {c : Char} (part : isNamePart c) : 36 ≤ c.toNat ∧ c.toNat ≤ 122 := by
  have values : 'a'.toNat = 97 ∧ 'z'.toNat = 122 ∧ 'A'.toNat = 65 ∧ 'Z'.toNat = 90 ∧
      '0'.toNat = 48 ∧ '9'.toNat = 57 ∧ '_'.toNat = 95 ∧ '$'.toNat = 36 ∧ '.'.toNat = 46 := by
    decide
  have order (a b : Char) : a ≤ b ↔ a.toNat ≤ b.toNat := Iff.rfl
  simp only [isNamePart, isNameStart, Bool.or_eq_true, Bool.and_eq_true, decide_eq_true_eq,
    order] at part
  rcases part with ((((lower | upper) | rfl) | rfl) | digit) | rfl <;> omega

namespace IsName

variable {name : String}

theorem parts (named : IsName name) : ∀ c ∈ name.toList, isNamePart c := by
  rcases named with ⟨first, rest, text, start, parts⟩
  rw [text]
  refine List.forall_mem_cons.mpr ⟨?_, fun c member => isNamePart_iff.mpr (parts c member)⟩
  rw [isNamePart, isNameStart_iff.mpr start, Bool.true_or, Bool.true_or]

theorem head (named : IsName name) : ∀ c ∈ name.toList.head?, isNameStart c := by
  rcases named with ⟨first, rest, text, start, parts⟩
  rw [text]
  rintro _ ⟨⟩
  exact isNameStart_iff.mpr start

theorem ne_nil (named : IsName name) : name.toList ≠ [] := by
  rcases named with ⟨first, rest, text, _⟩
  rw [text]
  exact List.cons_ne_nil first rest

theorem solid (named : IsName name) : ∀ c ∈ name.toList, Text.isBlank c = false := by
  intro c member
  have bounds := isNamePart_bounds (named.parts c member)
  exact Text.isBlank_of_visible (by omega) (by omega)

theorem comma_not_mem (named : IsName name) : ',' ∉ name.toList := fun member =>
  absurd (named.parts ',' member) (by decide)

end IsName

namespace TableSchema

/-! ## What a declaration lists -/

/--
The entries of a declaration: what stands between its commas, without the blanks around it, if
that is anything.
-/
def Lists (declaration : String) (entries : List (List Char)) : Prop :=
  ∃ cores, List.Forall₂ Text.Trims (declaration.toList.splitOn ',') cores ∧
    cores.filter (· ≠ []) = entries

/-- An entry that names an index, with any markers in front of the name. -/
def NamesIndex (entry : List Char) (field : String) : Prop :=
  ∃ markers, entry = markers ++ field.toList ∧ ∀ c ∈ markers, c = '&' ∨ c = '*'

/-- The entry that names the primary key, with the mark of allocated keys or without. -/
def primaryEntry (schema : TableSchema) : List Char :=
  (if schema.autoIncrement then ['+', '+'] else []) ++ schema.primaryKey.toList

/-- A schema is what a declaration declares under a name. -/
structure DeclaredBy (schema : TableSchema) (name declaration : String) : Prop where
  /-- The name is the given one, and a legal one. -/
  name : schema.name = name ∧ IsName name
  /-- The fields are legal names. -/
  fields : IsName schema.primaryKey ∧ ∀ field ∈ schema.indexes, IsName field
  /-- No field is named twice. -/
  distinct : (schema.primaryKey :: schema.indexes).Nodup
  /-- The first entry names the primary key, the others name the indexes in their order. -/
  entries : ∃ others, Lists declaration (schema.primaryEntry :: others) ∧
    List.Forall₂ NamesIndex others schema.indexes

/-- The declaration that lists the fields of a schema. -/
def declaration (schema : TableSchema) : String :=
  ",".intercalate (String.ofList schema.primaryEntry :: schema.indexes)

variable {schema : TableSchema} {name field declaration : String} {entry : List Char}
  {listed : List (List Char)}

theorem lists_iff : Lists declaration listed ↔ entries declaration.toList = listed := by
  have trims : Text.Trims = fun text core => Text.trim text = core := by
    funext text core
    exact propext Text.trim_eq_iff.symm
  have trimmed (pieces cores : List (List Char)) :
      List.Forall₂ Text.Trims pieces cores ↔ pieces.map Text.trim = cores := by
    rw [trims, ← List.forall₂_map_left_iff, List.forall₂_eq_eq_eq]
  have some (core : List Char) : (!core.isEmpty) = decide (core ≠ []) := by
    cases core <;> rfl
  simp only [Lists, trimmed, exists_eq_left', entries, Text.splitAt_eq_splitOn, some]

theorem withoutMarkers_eq_iff (named : IsName field) :
    withoutMarkers entry = field.toList ↔ NamesIndex entry field := by
  have unmarked : ∀ c ∈ field.toList.head?, decide (c = '&' ∨ c = '*') = false := by
    intro c first
    have start := named.head c first
    rw [decide_eq_false_iff_not]
    rintro (rfl | rfl) <;> exact absurd start (by decide)
  simp only [withoutMarkers, ← Bool.decide_or, Text.dropWhile_eq_iff, NamesIndex,
    decide_eq_true_eq]
  exact exists_congr fun _ => and_congr_right fun _ => and_iff_left unmarked

theorem splitMark_eq_iff (named : IsName field) {autoIncrement : Bool} :
    splitMark entry = (field.toList, autoIncrement) ↔
      entry = (if autoIncrement then ['+', '+'] else []) ++ field.toList := by
  constructor
  · intro marked
    unfold splitMark at marked
    split at marked
    · cases marked
      rfl
    · cases marked
      rfl
  · rintro rfl
    cases autoIncrement with
    | true => rfl
    | false =>
        unfold splitMark
        split
        · next rest text =>
            have first : '+' ∈ field.toList.head? := congrArg List.head? text
            exact absurd (named.head '+' first) (by decide)
        · rfl

/-- Entries name indexes where these are what is left without the markers. -/
theorem forall₂_namesIndex_iff {fields : List String} (named : ∀ field ∈ fields, IsName field) :
    List.Forall₂ NamesIndex listed fields ↔
      listed.map (fun entry => String.ofList (withoutMarkers entry)) = fields := by
  induction fields generalizing listed with
  | nil => simp
  | cons field fields ih =>
      rcases List.forall_mem_cons.mp named with ⟨first, rest⟩
      cases listed with
      | nil => simp
      | cons entry listed =>
          rw [List.forall₂_cons, ih rest, List.map_cons, List.cons.injEq,
            ← withoutMarkers_eq_iff first, ← String.toList_inj, String.toList_ofList]

/-! ## Reading -/

/-- Reading a declaration makes a call for each entry. -/
theorem parse_of_entries {primary : List Char} {others : List (List Char)}
    (listed : entries declaration.toList = primary :: others) :
    parse name declaration =
      TableDraft.build name
        (.primaryKey (String.ofList (splitMark primary).1) (splitMark primary).2 ::
          others.map fun entry => .index (String.ofList (withoutMarkers entry))) := by
  simp only [parse, listed, TableDraft.build, List.foldlM_cons, List.foldlM_map, bind_assoc]
  rfl

/-- The calls for the entries declare the fields that the entries name. -/
theorem built_of_entries_iff {primary : List Char} {others : List (List Char)} :
    TableDraft.build name
        (.primaryKey (String.ofList (splitMark primary).1) (splitMark primary).2 ::
          others.map fun entry => .index (String.ofList (withoutMarkers entry))) = .ok schema ↔
      (schema.name = name ∧ IsName name) ∧
        (IsName schema.primaryKey ∧ ∀ field ∈ schema.indexes, IsName field) ∧
        (schema.primaryKey :: schema.indexes).Nodup ∧
        primary = schema.primaryEntry ∧ List.Forall₂ NamesIndex others schema.indexes := by
  rw [TableDraft.build_eq_ok_iff]
  constructor
  · rintro ⟨named, rfl, keyNamed, eachNamed, distinct, before, after, calls, indexes, apart⟩
    -- the first call declares the primary key, so that no index comes before it
    cases before with
    | cons => simp at calls
    | nil =>
        simp only [List.map_nil, List.nil_append, List.cons.injEq,
          TableDraft.Call.primaryKey.injEq] at calls indexes
        rcases calls with ⟨⟨field, mark⟩, calls⟩
        have key : splitMark primary = (schema.primaryKey.toList, schema.autoIncrement) := by
          rw [← field, ← mark, String.toList_ofList]
        have rest : others.map (fun entry => String.ofList (withoutMarkers entry)) = after := by
          have injective : Function.Injective TableDraft.Call.index := fun _ _ =>
            TableDraft.Call.index.inj
          apply List.map_injective_iff.mpr injective
          rw [List.map_map]
          exact calls
        rw [← indexes] at rest apart
        exact ⟨⟨rfl, named⟩, ⟨keyNamed, eachNamed⟩, List.nodup_cons.mpr ⟨apart, distinct⟩,
          (splitMark_eq_iff keyNamed).mp key, (forall₂_namesIndex_iff eachNamed).mpr rest⟩
  · rintro ⟨⟨rfl, named⟩, ⟨keyNamed, eachNamed⟩, distinct, rfl, each⟩
    rcases List.nodup_cons.mp distinct with ⟨apart, distinct⟩
    have key := (splitMark_eq_iff keyNamed).mpr (Eq.refl schema.primaryEntry)
    refine ⟨named, rfl, keyNamed, eachNamed, distinct, [], schema.indexes, ?_, rfl, apart⟩
    rw [key, String.ofList_toList, ← (forall₂_namesIndex_iff eachNamed).mp each, List.map_map]
    rfl

theorem parse_eq_ok_iff :
    parse name declaration = .ok schema ↔ schema.DeclaredBy name declaration := by
  cases found : entries declaration.toList with
  | nil =>
      constructor
      · intro read
        simp [parse, found] at read
      · rintro ⟨_, _, _, others, listed, _⟩
        rw [lists_iff, found] at listed
        contradiction
  | cons primary others =>
      rw [parse_of_entries found, built_of_entries_iff]
      constructor
      · rintro ⟨named, fields, distinct, rfl, each⟩
        exact ⟨named, fields, distinct, others, lists_iff.mpr found, each⟩
      · rintro ⟨named, fields, distinct, _, listed, each⟩
        rw [lists_iff, found] at listed
        cases listed
        exact ⟨named, fields, distinct, rfl, each⟩

/-! ## Writing a declaration -/

theorem solid_primaryEntry (named : IsName schema.primaryKey) :
    ∀ c ∈ schema.primaryEntry, Text.isBlank c = false ∧ c ≠ ',' := by
  have plus : Text.isBlank '+' = false ∧ '+' ≠ ',' := by decide
  have mark : ∀ c ∈ (if schema.autoIncrement then ['+', '+'] else []),
      Text.isBlank c = false ∧ c ≠ ',' := by
    split
    · exact List.forall_mem_cons.mpr ⟨plus, List.forall_mem_singleton.mpr plus⟩
    · exact List.forall_mem_nil _
  refine List.forall_mem_append.mpr ⟨mark, fun c member => ⟨named.solid c member, ?_⟩⟩
  rintro rfl
  exact named.comma_not_mem member

/-- The fields of a schema are listed by the declaration written for it. -/
theorem lists_declaration (named : IsName schema.primaryKey)
    (eachNamed : ∀ field ∈ schema.indexes, IsName field) :
    Lists schema.declaration (schema.primaryEntry :: schema.indexes.map String.toList) := by
  have solid : ∀ entry ∈ schema.primaryEntry :: schema.indexes.map String.toList,
      entry ≠ [] ∧ ∀ c ∈ entry, Text.isBlank c = false ∧ c ≠ ',' := by
    refine List.forall_mem_cons.mpr ⟨⟨?_, solid_primaryEntry named⟩, List.forall_mem_map.mpr ?_⟩
    · exact List.append_ne_nil_of_right_ne_nil _ named.ne_nil
    · intro field member
      have named := eachNamed field member
      refine ⟨named.ne_nil, fun c inside => ⟨named.solid c inside, ?_⟩⟩
      rintro rfl
      exact named.comma_not_mem inside
  refine ⟨schema.primaryEntry :: schema.indexes.map String.toList, ?_, ?_⟩
  · have pieces : schema.declaration.toList.splitOn ',' =
        schema.primaryEntry :: schema.indexes.map String.toList := by
      rw [declaration, String.toList_intercalate, List.map_cons,
        @String.toList_ofList schema.primaryEntry]
      refine List.splitOn_intercalate ',' (fun entry member inside => ?_) (List.cons_ne_nil _ _)
      exact ((solid entry member).2 _ inside).2 rfl
    rw [pieces]
    refine List.forall₂_same.mpr fun entry member => Text.trims_self fun c inside => ?_
    exact ((solid entry member).2 c inside).1
  · refine List.filter_eq_self.mpr fun entry member => ?_
    exact decide_eq_true (solid entry member).1

/--
A declaration is read under a name just if the name is legal and the declaration lists one entry
or more, the first of which is a legal name, with the mark of allocated keys in front of it or
without, and the others legal names with any markers in front of them, all these names being
distinct: what is read is the schema of these fields.  Every schema that is read is read again from
the declaration that lists its fields.
-/
theorem declarations_read_as_listed (name declaration : String) :
    (∀ schema, parse name declaration = .ok schema ↔ schema.DeclaredBy name declaration) ∧
      ∀ schema, parse name declaration = .ok schema →
        parse schema.name schema.declaration = .ok schema := by
  refine ⟨fun _ => parse_eq_ok_iff, fun schema read => ?_⟩
  rcases parse_eq_ok_iff.mp read with ⟨⟨rfl, named⟩, fields, distinct, _⟩
  refine parse_eq_ok_iff.mpr ⟨⟨rfl, named⟩, fields, distinct, schema.indexes.map String.toList,
    lists_declaration fields.1 fields.2, ?_⟩
  refine List.forall₂_map_left_iff.mpr (List.forall₂_same.mpr fun field _ => ?_)
  exact ⟨[], rfl, List.forall_mem_nil _⟩

/-- Markers, blanks and empty entries are gone from the declaration that lists the fields. -/
theorem marked_declaration_reads_again :
    let schema : TableSchema := ⟨"friends", "id", true, ["name", "email", "tags"]⟩
    parse "friends" " ++id, name,, &email ,*&tags," = .ok schema ∧
      schema.declaration = "++id,name,email,tags" ∧
      parse "friends" "++id,name,email,tags" = .ok schema := by
  intro schema
  have read : parse "friends" " ++id, name,, &email ,*&tags," = .ok schema := by decide +kernel
  have written : schema.declaration = "++id,name,email,tags" := by decide +kernel
  exact ⟨read, written, written ▸ (declarations_read_as_listed _ _).2 schema read⟩

end TableSchema

end LiveTable
