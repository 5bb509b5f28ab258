import LiveTable.Proofs.OrderedMap
import LiveTable.Store.Basic
import Mathlib.Data.List.Nodup

/-!
# Opening a store

The first time that a store opens it creates its tables one after the other, and a
table that cannot be created ends the opening; whatever was created until then would be
there at the next opening.  `Store.opening` is opening as it goes, with what it leaves
behind where it fails.

On stores that have no tables before they are created it never fails half way: a schema
that has been accepted names every table once.  So opening is all or nothing, and is
`Store.open?`.
-/

set_option autoImplicit false

namespace LiveTable

/-! ## Schemas that a store opens with -/

namespace StoreSchema

/-- The version is positive and no two tables share a name. -/
def Usable (schema : StoreSchema) : Prop :=
  schema.version ≠ 0 ∧ (schema.tables.map TableSchema.name).Nodup

theorem repeatedName?_eq_none_iff (seen : List String) (tables : List TableSchema) :
    repeatedName? seen tables = none ↔
      (tables.map TableSchema.name).Nodup ∧ ∀ table ∈ tables, table.name ∉ seen := by
  induction tables generalizing seen with
  | nil => simp [repeatedName?]
  | cons table rest ih =>
      rw [repeatedName?]
      by_cases known : table.name ∈ seen
      · simp [known]
      · simp only [List.contains_eq_mem, known, decide_false, Bool.false_eq_true, if_false, ih,
          List.map_cons, List.nodup_cons, List.mem_map, List.mem_cons]
        grind

theorem validate_eq_ok_iff (schema : StoreSchema) :
    schema.validate = .ok () ↔ schema.Usable := by
  rw [validate, Usable]
  by_cases zero : schema.version = 0
  · simp [zero]
  · have names := repeatedName?_eq_none_iff [] schema.tables
    cases repeated : repeatedName? [] schema.tables with
    | none => simp_all
    | some name => simp_all

end StoreSchema

/-! ## Creating tables -/

namespace Tables

/--
Creates tables one after the other up to the first that is refused.  What was created
until then stays.
-/
def createEach (tables : Tables) : List TableSchema → Except SchemaFault Unit × Tables
  | [] => (.ok (), tables)
  | schema :: rest =>
    match tables.create schema with
    | .error fault => (.error fault, tables)
    | .ok more => createEach more rest

section

variable {tables : Tables} {schemas : List TableSchema}

theorem foldlM_create (tables : Tables) (schemas : List TableSchema) :
    schemas.foldlM create tables =
      (tables.createEach schemas).1.map fun _ => (tables.createEach schemas).2 := by
  induction schemas generalizing tables with
  | nil => rfl
  | cons schema rest ih =>
      rw [List.foldlM_cons, createEach]
      cases created : tables.create schema with
      | error fault => rfl
      | ok more => exact ih more

/-- Tables that are created at once are those that are created one after the other. -/
theorem createEach_of_createTables (created : Store.createTables schemas = .ok tables) :
    createEach .empty schemas = (.ok (), tables) := by
  rw [Store.createTables, foldlM_create] at created
  rcases made : createEach .empty schemas with ⟨outcome, left⟩
  rw [made] at created
  cases outcome with
  | error fault => contradiction
  | ok _ =>
      obtain rfl : left = tables := Except.ok.inj created
      rfl

/-- Tables with names of their own can be created where there are none of these names. -/
theorem createEach_of_nodup
    (distinct : (schemas.map TableSchema.name).Nodup)
    (absent : ∀ schema ∈ schemas, tables.get? schema.name = none) :
    (tables.createEach schemas).1 = .ok () := by
  induction schemas generalizing tables with
  | nil => rfl
  | cons schema rest ih =>
      rcases List.nodup_cons.mp distinct with ⟨once, restDistinct⟩
      have here : tables.contains schema.name = false := by
        rw [OrderedMap.contains_eq_isSome, absent schema List.mem_cons_self]
        rfl
      rw [createEach, create, here]
      apply ih restDistinct
      intro other member
      have apart : other.name ≠ schema.name := by
        intro same
        exact once (same ▸ List.mem_map_of_mem member)
      rw [OrderedMap.get?_insert, if_neg (mt Std.compare_eq_iff_eq.mp apart)]
      exact absent other (List.mem_cons_of_mem schema member)

/-- Tables that have been created are those that were there, and the declared ones without rows. -/
theorem get?_createEach
    (created : (tables.createEach schemas).1 = .ok ()) (name : String) :
    (tables.createEach schemas).2.get? name =
      (tables.get? name).or ((schemas.find? (·.name == name)).map Table.ofSchema) := by
  induction schemas generalizing tables with
  | nil => simp [createEach]
  | cons schema rest ih =>
      rw [createEach, create] at created ⊢
      by_cases here : tables.contains schema.name
      · rw [if_pos here] at created
        contradiction
      · rw [if_neg here] at created ⊢
        rw [OrderedMap.contains_eq_isSome] at here
        rw [ih created, OrderedMap.get?_insert]
        by_cases same : name = schema.name
        · subst same
          rw [if_pos (Std.compare_eq_iff_eq.mpr rfl)]
          simp_all
        · have other : (schema.name == name) = false := by simpa using Ne.symm same
          rw [if_neg (mt Std.compare_eq_iff_eq.mp same), List.find?_cons_of_neg (by simp [other])]

end

end Tables

namespace Store

/-! ## Opening -/

/-- Opens the store, one table after the other; the store is what this leaves behind. -/
def opening (store : Store) : Except Error Unit × Store :=
  if store.isOpen then (.ok (), store)
  else
    match store.blocked? with
    | some reason => (.error (.storeNotOpenable reason), store)
    | none =>
      if store.isCreated then (.ok (), { store with isOpen := true })
      else
        match store.schema.validate with
        | .error fault => (.error (.storeNotOpenable fault.toError.message), store)
        | .ok () =>
          match store.tables.createEach store.schema.tables with
          | (.error fault, tables) =>
            (.error (.storeNotOpenable fault.toError.message), { store with tables := tables })
          | (.ok (), tables) =>
            (.ok (), { store with isOpen := true, isCreated := true, tables := tables })

/-- What opening a store comes to, and the store that it leaves. -/
inductive Opening (store : Store) : Except Error Unit → Store → Prop where
  | already (isOpen : store.isOpen = true) : Opening store (.ok ()) store
  | blocked {reason : String} (closed : store.isOpen = false)
      (blocked : store.blocked? = some reason) :
      Opening store (.error (.storeNotOpenable reason)) store
  | again (closed : store.isOpen = false) (free : store.blocked? = none)
      (created : store.isCreated = true) :
      Opening store (.ok ()) { store with isOpen := true }
  | invalid {fault : SchemaFault} (closed : store.isOpen = false) (free : store.blocked? = none)
      (uncreated : store.isCreated = false) (invalid : store.schema.validate = .error fault) :
      Opening store (.error (.storeNotOpenable fault.toError.message)) store
  | created {tables : Tables} (closed : store.isOpen = false) (free : store.blocked? = none)
      (uncreated : store.isCreated = false) (usable : store.schema.Usable)
      (created : Tables.createEach .empty store.schema.tables = (.ok (), tables)) :
      Opening store (.ok ()) { store with isOpen := true, isCreated := true, tables := tables }

variable {store : Store}

/-- A usable schema has all its tables created where there are none. -/
theorem createEach_of_usable {schema : StoreSchema} (usable : schema.Usable) :
    (Tables.createEach .empty schema.tables).1 = .ok () :=
  Tables.createEach_of_nodup usable.2 fun _ _ => rfl

/-- The tables that a usable schema declares are those that are created one after the other. -/
theorem declaredTables_of_usable {schema : StoreSchema} (usable : schema.Usable) :
    declaredTables schema = .ok (Tables.createEach .empty schema.tables).2 := by
  rw [declaredTables, schema.validate_eq_ok_iff.mpr usable]
  refine (Tables.foldlM_create .empty schema.tables).trans ?_
  rw [createEach_of_usable usable]
  rfl

theorem opening_spec (fresh : store.isCreated = false → store.tables = .empty) :
    store.Opening store.opening.1 store.opening.2 := by
  rcases store with ⟨name, schema, tables, isOpen, isCreated, blocked?, outbox⟩
  cases isOpen with
  | true => exact .already rfl
  | false =>
      cases blocked? with
      | some reason => exact .blocked rfl rfl
      | none =>
          cases isCreated with
          | true => exact .again rfl rfl rfl
          | false =>
              obtain rfl : tables = .empty := fresh rfl
              simp only [opening, Bool.false_eq_true, if_false]
              cases valid : schema.validate with
              | error fault => exact .invalid rfl rfl rfl valid
              | ok _ =>
                  have usable := schema.validate_eq_ok_iff.mp valid
                  have all := createEach_of_usable usable
                  cases made : Tables.createEach .empty schema.tables with
                  | mk outcome tables =>
                      rw [made] at all
                      obtain rfl : outcome = .ok () := all
                      exact .created rfl rfl rfl usable made

namespace Opening

variable {outcome : Except Error Unit} {after : Store}

/-- Opening one table after the other comes to what opening at once comes to. -/
theorem open?_eq (opening : store.Opening outcome after) :
    store.open? = outcome.map fun _ => after := by
  cases opening with
  | already isOpen => rw [open?, if_pos isOpen]; rfl
  | blocked closed blocked => simp [open?, closed, blocked, Except.map]
  | again closed free created => simp [open?, closed, free, created, Except.map]
  | @invalid fault closed free uncreated invalid =>
      have refused : declaredTables store.schema = .error fault := by
        rw [declaredTables, invalid]
        rfl
      simp [open?, closed, free, uncreated, refused, Except.map]
  | created closed free uncreated usable created =>
      have declared := declaredTables_of_usable usable
      rw [created] at declared
      simp [open?, closed, free, uncreated, declared, Except.map]

/-- Opening that fails leaves the store closed, and as it was. -/
theorem of_error {error : Error} (opening : store.Opening (.error error) after) :
    after = store ∧ store.isOpen = false := by
  cases opening with
  | blocked closed _ => exact ⟨rfl, closed⟩
  | invalid closed _ _ _ => exact ⟨rfl, closed⟩

end Opening

end Store

end LiveTable
