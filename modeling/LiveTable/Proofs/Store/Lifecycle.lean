import Mathlib.Data.List.Induction
import LiveTable.Proofs.Store.Keyed
import LiveTable.Proofs.Store.Opening

/-!
# The life of a store

A store is opened, closed, blocked and given transactions to run, in any order.
`Store.Stands` is what holds of it through its calls: from the first of them that opens
it on, its tables are there as its schema declares them.

What is looked up in the tables is changed by transactions that return without a
failure, and by no other call.  Whether the store is open is changed by the calls that
open it, if they succeed, and by those that close it.
-/

set_option autoImplicit false

namespace LiveTable

/-! ## Schemas and contents of tables -/

namespace Tables

/-- The tables keep their schemas through changes. -/
theorem Writes.schemas {first last : Tables} {changes : List Change}
    (writes : first.Writes changes last) (name : String) :
    (last.get? name).map Table.schema = (first.get? name).map Table.schema := by
  induction writes with
  | none tables => rfl
  | more held changed _ ih =>
      rw [ih, get?_replace held]
      split
      · next same =>
          rw [same, held, Option.map_some, Option.map_some, changed.schema]
      · rfl

/-- The tables keep their schemas when changes are taken back. -/
theorem schemas_undo (changes : List Change) (tables : Tables) (name : String) :
    ((Journal.undo changes tables).get? name).map Table.schema =
      (tables.get? name).map Table.schema := by
  induction changes with
  | nil => rfl
  | cons change rest ih =>
      rw [Journal.undo_cons, Journal.undoChange, OrderedMap.get?_modify, ← ih]
      split
      · rw [Option.map_map]
        congr 1
        funext table
        exact table.restore_schema _ _
      · rfl

/-- The record that is looked up in a table of that name, under that key. -/
def lookup (tables : Tables) (name : String) (key : Value) : Option Record :=
  (tables.get? name).bind fun table => table.get? key

theorem SameContents.lookup {first second : Tables} (same : first.SameContents second)
    (name : String) (key : Value) : first.lookup name key = second.lookup name key := by
  have here := same name
  rw [Tables.lookup, Tables.lookup]
  generalize first.get? name = firstTable? at here ⊢
  generalize second.get? name = secondTable? at here ⊢
  cases here with
  | none => rfl
  | some contents => exact contents.get? key

end Tables

namespace Store

variable {store : Store}

/-! ## Transactions -/

/--
What a transaction of work that only writes comes to, and the store that it leaves: it is
refused, or its changes are committed, or they are taken back.
-/
inductive Transacted {Failure α : Type} (store : Store) :
    Except Failure α → Store → Prop where
  | refused (failure : Failure) : Transacted store (.error failure) store
  | committed {tables : Tables} {changes : List Change} (answer : α)
      (writes : store.tables.Writes changes tables) :
      Transacted store (.ok answer) ({ store with tables := tables }.publish changes)
  | undone {tables : Tables} {changes : List Change} (failure : Failure)
      (writes : store.tables.Writes changes tables) :
      Transacted store (.error failure) { store with tables := Journal.undo changes tables }

theorem transacted {Failure α : Type} (refuse : Error → Failure)
    (wellFormed : store.tables.WellFormed) (mode : AccessMode) (name : String)
    {work : Workspace → Except Failure α × Workspace}
    (reaches : ∀ space : Workspace, space.Reaches (work space).2) :
    Transacted store (store.transaction refuse mode name work).1
      (store.transaction refuse mode name work).2 := by
  cases isOpen : store.isOpen with
  | false =>
      rw [transaction_closed isOpen]
      exact .refused _
  | true =>
      cases held : store.tables.get? name with
      | none =>
          rw [transaction_missing isOpen held]
          exact .refused _
      | some table =>
          rcases (reaches ⟨table, .begin name mode⟩).writes with ⟨changes, writes, _⟩
          cases performed : work ⟨table, .begin name mode⟩ with
          | mk outcome space =>
              rw [performed] at writes
              have made := writes.toTables wellFormed held
              have journal : space.transaction.journal = changes := writes.journal
              cases outcome with
              | ok answer =>
                  rw [transaction_ok isOpen held performed, journal]
                  exact .committed answer made
              | error failure =>
                  rw [transaction_error isOpen held performed, journal]
                  exact .undone failure made

/-! ## Calls -/

end Store

/-- A call on a store; the work of a transaction only puts and deletes. -/
inductive StoreCall : Type 1 where
  | opens
  | closes
  | blocks (reason? : Option String)
  | transacts {Failure α : Type} (refuse : Error → Failure) (mode : AccessMode)
      (table : String) (work : Workspace → Except Failure α × Workspace)
      (reaches : ∀ space : Workspace, space.Reaches (work space).2)

namespace StoreCall

/-- The store after a call. -/
def serve (store : Store) : StoreCall → Store
  | .opens => store.opening.2
  | .closes => store.close
  | .blocks reason? => store.block reason?
  | .transacts refuse mode table work _ => (store.transaction refuse mode table work).2

/-- The call opens the store, which succeeds. -/
def Opens (store : Store) : StoreCall → Prop
  | .opens => store.opening.1 = .ok ()
  | _ => False

/-- The call closes the store. -/
def Closes : StoreCall → Prop
  | .closes => True
  | _ => False

/-- The call is a transaction, which returns without a failure. -/
def Commits (store : Store) : StoreCall → Prop
  | .transacts refuse mode table work _ =>
    (store.transaction refuse mode table work).1.isOk = true
  | _ => False

/-- Why the store cannot be opened after the call, if it was blocked before for a reason or not. -/
def blocking (former? : Option String) : StoreCall → Option String
  | .blocks reason? => reason?
  | _ => former?

end StoreCall

namespace Store

/-- The store after calls, one after the other. -/
def after (first : Store) (calls : List StoreCall) : Store :=
  calls.foldl StoreCall.serve first

/-- Some call of a sequence does something to the store as it finds it. -/
def Meets (first : Store) (does : Store → StoreCall → Prop) (calls : List StoreCall) : Prop :=
  ∃ early call late, calls = early ++ call :: late ∧ does (first.after early) call

/-- Some call of a sequence opens the store as it finds it, and no call after that closes it. -/
def Opened (first : Store) (calls : List StoreCall) : Prop :=
  ∃ early call late, calls = early ++ call :: late ∧ call.Opens (first.after early) ∧
    ∀ later ∈ late, ¬ later.Closes

variable {first store : Store} {does : Store → StoreCall → Prop}

theorem after_concat (first : Store) (calls : List StoreCall) (call : StoreCall) :
    first.after (calls ++ [call]) = call.serve (first.after calls) := by
  rw [after, List.foldl_append]
  rfl

theorem not_opened_nil : ¬ first.Opened [] := by
  rintro ⟨early, call, late, split, _⟩
  simp at split

theorem opened_concat (calls : List StoreCall) (call : StoreCall) :
    first.Opened (calls ++ [call]) ↔
      call.Opens (first.after calls) ∨ first.Opened calls ∧ ¬ call.Closes := by
  constructor
  · rintro ⟨early, met, late, split, opens, unclosed⟩
    rcases List.eq_nil_or_concat' late with rfl | ⟨before, last, rfl⟩
    · rcases List.append_inj' split rfl with ⟨rfl, same⟩
      rcases List.cons.inj same with ⟨rfl, _⟩
      exact Or.inl opens
    · rw [← List.cons_append, ← List.append_assoc] at split
      rcases List.append_inj' split rfl with ⟨rfl, same⟩
      rcases List.cons.inj same with ⟨rfl, _⟩
      refine Or.inr ⟨⟨early, met, before, rfl, opens, ?_⟩, ?_⟩
      · exact fun later member => unclosed later (List.mem_append_left _ member)
      · exact unclosed call (List.mem_append_right _ (List.mem_singleton_self call))
  · rintro (opens | ⟨⟨early, met, late, rfl, opens, unclosed⟩, stays⟩)
    · exact ⟨calls, call, [], rfl, opens, nofun⟩
    · refine ⟨early, met, late ++ [call], List.append_assoc _ _ _, opens, ?_⟩
      intro later member
      rcases List.mem_append.mp member with before | last
      · exact unclosed later before
      · rwa [List.mem_singleton.mp last]

theorem not_meets_nil : ¬ first.Meets does [] := by
  rintro ⟨early, call, late, split, _⟩
  simp at split

theorem meets_cons (call : StoreCall) (calls : List StoreCall) :
    first.Meets does (call :: calls) ↔
      does first call ∨ (call.serve first).Meets does calls := by
  constructor
  · rintro ⟨early, met, late, split, doing⟩
    cases early with
    | nil =>
        rcases List.cons.inj split with ⟨rfl, rfl⟩
        exact Or.inl doing
    | cons head early =>
        rcases List.cons.inj split with ⟨rfl, rfl⟩
        exact Or.inr ⟨early, met, late, rfl, doing⟩
  · rintro (doing | ⟨early, met, late, rfl, doing⟩)
    · exact ⟨[], call, calls, rfl, doing⟩
    · exact ⟨call :: early, met, late, rfl, doing⟩

/--
How far a store has come: from the first successful opening on its tables are there, as
the schema declares them.
-/
structure Stands (schema : StoreSchema) (hasOpened : Prop) (store : Store) : Prop where
  keyed : store.Keyed
  declared : store.schema = schema
  created : store.isCreated = true ↔ hasOpened
  inside : store.isOpen = true → store.isCreated = true
  usable : store.isCreated = true → schema.Usable
  tables : store.isCreated = true →
    ∀ name, (store.tables.get? name).map Table.schema = schema.table? name

variable {schema : StoreSchema} {hasOpened : Prop}

theorem ofSchema_stands (name : String) (schema : StoreSchema) :
    Stands schema False (ofSchema name schema) where
  keyed := ofSchema_keyed name schema
  declared := rfl
  created := by simp [ofSchema]
  inside := nofun
  usable := nofun
  tables := nofun

namespace Stands

theorem fresh (stands : Stands schema hasOpened store) :
    store.isCreated = false → store.tables = .empty :=
  stands.keyed.sound.created

theorem congr {other : Prop} (stands : Stands schema hasOpened store)
    (same : hasOpened ↔ other) : Stands schema other store :=
  { stands with created := stands.created.trans same }

theorem opening (stands : Stands schema hasOpened store) :
    Stands schema (hasOpened ∨ store.opening.1 = .ok ()) store.opening.2 := by
  have spec := opening_spec stands.fresh
  have keyed : store.opening.2.Keyed := by
    cases outcome : store.opening.1 with
    | error error =>
        rw [outcome] at spec
        rw [spec.of_error.1]
        exact stands.keyed
    | ok _ =>
        rw [outcome] at spec
        exact stands.keyed.open? spec.open?_eq
  generalize store.opening.1 = outcome at spec ⊢
  generalize store.opening.2 = after at spec keyed ⊢
  cases spec with
  | already isOpen =>
      have created := stands.inside isOpen
      exact stands.congr (by simp [stands.created.mp created])
  | blocked _ _ => exact stands.congr (by simp)
  | invalid _ _ _ _ => exact stands.congr (by simp)
  | again _ _ created =>
      exact { stands with
        keyed := keyed
        created := by simp [created]
        inside := fun _ => created }
  | created _ _ _ usable created =>
      have all := congrArg Prod.fst created
      refine ⟨keyed, stands.declared, by simp, fun _ => rfl, ?_, ?_⟩
      · exact fun _ => stands.declared ▸ usable
      · intro _ name
        have held := Tables.get?_createEach all name
        rw [created] at held
        rw [held, ← stands.declared, StoreSchema.table?]
        change ((store.schema.tables.find? _).map Table.ofSchema).map Table.schema = _
        rw [Option.map_map]
        exact congrFun Option.map_id _

/-- Work in a transaction leaves the schemas of the tables, committed or not. -/
theorem transacted {Failure α : Type} {result : Except Failure α} {after : Store}
    (stands : Stands schema hasOpened store) (keyed : after.Keyed)
    (spec : store.Transacted result after) : Stands schema hasOpened after := by
  cases spec with
  | refused failure => exact stands
  | committed answer writes =>
      exact { stands with
        keyed := keyed
        tables := fun created name => (writes.schemas name).trans (stands.tables created name) }
  | undone failure writes =>
      exact { stands with
        keyed := keyed
        tables := fun created name =>
          (Tables.schemas_undo _ _ name).trans
            ((writes.schemas name).trans (stands.tables created name)) }

theorem serve (stands : Stands schema hasOpened store) (call : StoreCall) :
    Stands schema (hasOpened ∨ call.Opens store) (call.serve store) := by
  cases call with
  | opens => exact stands.opening
  | closes =>
      refine Stands.congr ?_ (or_false hasOpened).symm.to_iff
      exact { stands with keyed := stands.keyed.of_tables rfl rfl, inside := nofun }
  | blocks reason? =>
      refine Stands.congr ?_ (or_false hasOpened).symm.to_iff
      exact { stands with keyed := stands.keyed.of_tables rfl rfl }
  | transacts refuse mode table work reaches =>
      refine Stands.congr ?_ (or_false hasOpened).symm.to_iff
      exact stands.transacted (stands.keyed.transaction reaches)
        (Store.transacted refuse stands.keyed.sound.wellFormed mode table reaches)

/-- Through any calls a store stands where the first successful opening among them puts it. -/
theorem after (stands : Stands schema hasOpened store) (calls : List StoreCall) :
    Stands schema (hasOpened ∨ store.Meets StoreCall.Opens calls)
      (store.after calls) := by
  induction calls generalizing store hasOpened with
  | nil => exact stands.congr (by simp [not_meets_nil])
  | cons call rest ih =>
      refine (ih (stands.serve call)).congr ?_
      rw [meets_cons, or_assoc]

theorem blocked?_serve (stands : Stands schema hasOpened store) (call : StoreCall) :
    (call.serve store).blocked? = call.blocking store.blocked? := by
  cases call with
  | opens =>
      have spec := opening_spec stands.fresh
      rw [StoreCall.serve]
      generalize store.opening.1 = outcome at spec
      generalize store.opening.2 = after at spec ⊢
      cases spec <;> rfl
  | closes => rfl
  | blocks reason? => rfl
  | transacts refuse mode table work reaches =>
      have spec := Store.transacted refuse stands.keyed.sound.wellFormed mode table reaches
      rw [StoreCall.serve]
      generalize (store.transaction refuse mode table work).1 = result at spec
      generalize (store.transaction refuse mode table work).2 = after at spec ⊢
      cases spec <;> rfl

theorem blocked?_after (stands : Stands schema hasOpened store) (calls : List StoreCall) :
    (store.after calls).blocked? = calls.foldl StoreCall.blocking store.blocked? := by
  induction calls generalizing store hasOpened with
  | nil => rfl
  | cons call rest ih =>
      rw [List.foldl_cons, ← stands.blocked?_serve call]
      exact ih (stands.serve call)

/-- A store is open after a call that opened it, and where it was open and was not closed. -/
theorem isOpen_serve (stands : Stands schema hasOpened store) (call : StoreCall) :
    (call.serve store).isOpen = true ↔
      call.Opens store ∨ store.isOpen = true ∧ ¬ call.Closes := by
  cases call with
  | opens =>
      have spec := opening_spec stands.fresh
      simp only [StoreCall.serve, StoreCall.Opens, StoreCall.Closes]
      generalize store.opening.1 = outcome at spec ⊢
      generalize store.opening.2 = after at spec ⊢
      cases spec with
      | already isOpen => simp [isOpen]
      | blocked closed _ => simp [closed]
      | again _ _ _ => simp
      | invalid closed _ _ _ => simp [closed]
      | created _ _ _ _ _ => simp
  | closes => simp [StoreCall.serve, StoreCall.Opens, StoreCall.Closes, close]
  | blocks reason? => simp [StoreCall.serve, StoreCall.Opens, StoreCall.Closes, block]
  | transacts refuse mode table work reaches =>
      have spec := Store.transacted refuse stands.keyed.sound.wellFormed mode table reaches
      simp only [StoreCall.serve, StoreCall.Opens, StoreCall.Closes]
      generalize (store.transaction refuse mode table work).1 = result at spec
      generalize (store.transaction refuse mode table work).2 = after at spec ⊢
      cases spec with
      | refused _ => simp
      | committed answer _ => simp [publish]
      | undone _ _ => simp

/-- A store that was closed at first is open if a call opened it and none closed it again. -/
theorem isOpen_after (stands : Stands schema hasOpened store) (closed : store.isOpen = false)
    (calls : List StoreCall) :
    (store.after calls).isOpen = true ↔ store.Opened calls := by
  induction calls using List.reverseRecOn with
  | nil => exact iff_of_false (Bool.eq_false_iff.mp closed) not_opened_nil
  | append_singleton calls call ih =>
      rw [after_concat, opened_concat, (stands.after calls).isOpen_serve, ih]

/-- No record is to be found in tables as they have just been created. -/
theorem lookup_createEach {schemas : List TableSchema}
    (created : (Tables.createEach .empty schemas).1 = .ok ()) (name : String) (key : Value) :
    (Tables.createEach .empty schemas).2.lookup name key = none := by
  rw [Tables.lookup, Tables.get?_createEach created]
  change (((schemas.find? _).map Table.ofSchema).bind _) = none
  cases schemas.find? (·.name == name) <;> rfl

/-- Only a transaction that returns without a failure changes what is looked up. -/
theorem lookup_serve (stands : Stands schema hasOpened store) {call : StoreCall}
    (quiet : ¬ call.Commits store) (name : String) (key : Value) :
    (call.serve store).tables.lookup name key = store.tables.lookup name key := by
  cases call with
  | opens =>
      have spec := opening_spec stands.fresh
      rw [StoreCall.serve]
      generalize store.opening.1 = outcome at spec
      generalize store.opening.2 = after at spec ⊢
      cases spec with
      | already _ => rfl
      | blocked _ _ => rfl
      | again _ _ _ => rfl
      | invalid _ _ _ _ => rfl
      | created _ _ uncreated _ created =>
          have none := lookup_createEach (congrArg Prod.fst created) name key
          rw [created] at none
          rw [stands.fresh uncreated]
          exact none
  | closes => rfl
  | blocks reason? => rfl
  | transacts refuse mode table work reaches =>
      have wellFormed := stands.keyed.sound.wellFormed
      have spec := Store.transacted refuse wellFormed mode table reaches
      rw [StoreCall.serve]
      rw [StoreCall.Commits] at quiet
      generalize (store.transaction refuse mode table work).1 = result at spec quiet
      generalize (store.transaction refuse mode table work).2 = after at spec ⊢
      cases spec with
      | refused _ => rfl
      | committed answer _ => exact absurd rfl quiet
      | undone _ writes => exact (writes.undo_sameContents wellFormed).lookup name key

/-- What is looked up lasts through any calls that commit nothing. -/
theorem lookup_after (stands : Stands schema hasOpened store) {calls : List StoreCall}
    (quiet : ¬ store.Meets StoreCall.Commits calls) (name : String) (key : Value) :
    (store.after calls).tables.lookup name key = store.tables.lookup name key := by
  induction calls generalizing store hasOpened with
  | nil => rfl
  | cons call rest ih =>
      rw [meets_cons, not_or] at quiet
      exact (ih (stands.serve call) quiet.2).trans (stands.lookup_serve quiet.1 name key)

/-- A closed store does not open while it is blocked, nor with a schema that is not usable. -/
theorem opening_fails_iff (stands : Stands schema hasOpened store)
    (closed : store.isOpen = false) :
    (∃ error, store.opening.1 = .error error) ↔ store.blocked?.isSome ∨ ¬ schema.Usable := by
  have spec := opening_spec stands.fresh
  generalize store.opening.1 = outcome at spec ⊢
  generalize store.opening.2 = after at spec
  cases spec with
  | already isOpen => exact absurd isOpen (by simp [closed])
  | blocked _ blocked => simp [blocked]
  | again _ free created => simp [free, stands.usable created]
  | invalid _ _ _ invalid =>
      have unusable : ¬ schema.Usable := by
        rw [← stands.declared, ← StoreSchema.validate_eq_ok_iff, invalid]
        nofun
      simp [unusable]
  | created _ free _ usable _ =>
      rw [stands.declared] at usable
      simp [free, usable]

end Stands

/--
A store that was made of a schema, after any calls.  Before the first successful opening
it has no tables, and from then on the declared ones.  It is open from a successful
opening to the next call that closes it.  An opening that fails changes nothing; on a
closed store it fails exactly if the last call that blocked it gave a reason, or the
version is zero, or a table is declared twice, and so no table that is created on the way
is there already.  Opening table by table is opening at once.  What is looked up under a
key of a table lasts through all calls that are not transactions which return without a
failure.  On a closed store a transaction is refused, whatever its work.
-/
theorem tables_stand_from_first_opening
    (name : String) (schema : StoreSchema) (calls : List StoreCall) :
    let made := ofSchema name schema
    let store := made.after calls
    (¬ made.Meets StoreCall.Opens calls → store.tables = .empty) ∧
    (made.Meets StoreCall.Opens calls →
      ∀ table, (store.tables.get? table).map Table.schema = schema.table? table) ∧
    (store.isOpen = true ↔ made.Opened calls) ∧
    (∀ error, store.opening.1 = .error error →
      store.opening.2 = store ∧ store.isOpen = false) ∧
    (store.isOpen = false →
      ((∃ error, store.opening.1 = .error error) ↔
        (calls.foldl StoreCall.blocking none).isSome ∨ schema.version = 0 ∨
          ¬ (schema.tables.map TableSchema.name).Nodup)) ∧
    (store.isCreated = false → schema.validate = .ok () →
      (store.tables.createEach schema.tables).1 = .ok ()) ∧
    (store.open? = store.opening.1.map fun _ => store.opening.2) ∧
    (∀ more, ¬ store.Meets StoreCall.Commits more → ∀ table key,
      (store.after more).tables.lookup table key = store.tables.lookup table key) ∧
    (store.isOpen = false →
      ∀ {Failure α : Type} (refuse : Error → Failure) (mode : AccessMode) (table : String)
        (work : Workspace → Except Failure α × Workspace),
        store.transaction refuse mode table work = (.error (refuse .storeClosed), store)) := by
  intro made store
  have stands := (ofSchema_stands name schema).after calls
  have opened : store.isCreated = true ↔ made.Meets StoreCall.Opens calls :=
    stands.created.trans (false_or _).to_iff
  have spec := opening_spec stands.fresh
  refine ⟨?_, ?_, ?_, ?_, ?_, ?_, ?_, ?_, ?_⟩
  · intro never
    exact stands.fresh (Bool.eq_false_iff.mpr (mt opened.mp never))
  · exact fun hasOpened => stands.tables (opened.mpr hasOpened)
  · exact (ofSchema_stands name schema).isOpen_after rfl calls
  · intro error failed
    rw [failed] at spec
    exact spec.of_error
  · intro closed
    rw [stands.opening_fails_iff closed, (ofSchema_stands name schema).blocked?_after,
      StoreSchema.Usable, not_and_or, not_not]
    rfl
  · intro uncreated valid
    rw [stands.fresh uncreated]
    exact createEach_of_usable (schema.validate_eq_ok_iff.mp valid)
  · exact spec.open?_eq
  · exact fun more quiet => stands.lookup_after quiet
  · intro closed Failure α refuse mode table work
    exact transaction_closed closed

/--
A store whose opening was blocked at first, and that was opened later, finds the record
again after it has been closed, refused and opened.
-/
theorem record_outlives_reopening :
    let schema : StoreSchema := ⟨1, [⟨"t", "id", false, []⟩]⟩
    let record : Record := .ofList [("id", .integer 1)]
    let write : StoreCall :=
      .transacts id .readWrite "t" (Work.runOn (Work.put record none)) (Work.Writing.put record none)
    let calls := [.opens, .closes, .blocks (some "upgrade"), .opens, .blocks none, .opens, write]
    let store := (ofSchema "s" schema).after calls
    (store.tables.lookup "t" (.integer 1)).isSome = true ∧
      (store.after [.closes, .blocks (some "upgrade"), .opens, .blocks none, .opens]).tables.lookup
          "t" (.integer 1) =
        store.tables.lookup "t" (.integer 1) := by
  intro schema record write calls store
  refine ⟨by subst store calls write record schema; decide +kernel, ?_⟩
  have stays := (tables_stand_from_first_opening "s" schema calls).2.2.2.2.2.2.2.1
  apply stays
  simp [meets_cons, not_meets_nil, StoreCall.Commits]

end Store

end LiveTable
