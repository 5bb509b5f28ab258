import LiveTable.Proofs.Store.Keys
import LiveTable.Proofs.Store.Requests

/-!
# Stores with keys in order

Whatever is done with a store, by its own operations or in its transactions, its tables
stay in order and every row of them stands under a key that agrees with its record.
-/

set_option autoImplicit false

namespace LiveTable

/-- Work in one transaction keeps what puts and deletions keep. -/
theorem Desk.Kept.reaches
    {Good : Table → Prop} {Fits : Table → Value → Record → Prop}
    (law : Table.Law (fun _ => True) Good Fits) {name target : String} {tables : Tables}
    (there : (tables.get? target).isSome) {first last : Workspace} (reaches : first.Reaches last)
    (kept : Desk.Kept Good Fits name
      ⟨tables.modify target fun _ => first.table, [first.transaction]⟩) :
    Desk.Kept Good Fits name
      ⟨tables.modify target fun _ => last.table, [last.transaction]⟩ := by
  rcases Option.isSome_iff_exists.mp there with ⟨former, held⟩
  have first (transaction : Transaction) : [transaction][0]? = some transaction := rfl
  have present (table : Table) :
      OrderedMap.get? (tables.modify target fun _ => table) target = some table := by
    rw [Tables.get?_replace held, if_pos rfl]
  induction reaches with
  | refl space => exact kept
  | put written _ ih =>
      apply ih
      have after := kept.transact_put law (first _) (present _) written fun _ => trivial
      rwa [OrderedMap.modify_modify] at after
  | delete done _ ih =>
      apply ih
      have after := kept.transact_delete law (first _) (present _) done
      rwa [OrderedMap.modify_modify] at after

namespace Store

/-- A store whose tables are in order, with rows under keys that agree with their records. -/
structure Keyed (store : Store) : Prop where
  sound : store.Sound
  keys {name : String} {table : Table} (held : store.tables.get? name = some table) :
    table.AllKeyed

theorem ofSchema_keyed (name : String) (schema : StoreSchema) : (ofSchema name schema).Keyed where
  sound := ⟨Tables.empty_wellFormed, fun _ => rfl⟩
  keys held := nomatch held

variable {store after : Store}

/-- What leaves the tables alone, and does not forget that there are any, keeps the keys. -/
theorem Keyed.of_tables
    (keyed : store.Keyed) (tables : after.tables = store.tables)
    (created : after.isCreated = store.isCreated) :
    after.Keyed where
  sound := by
    refine ⟨?_, ?_⟩
    · rw [tables]
      exact keyed.sound.wellFormed
    · rw [tables, created]
      exact keyed.sound.created
  keys held := by
    rw [tables] at held
    exact keyed.keys held

/-- Opening a store finds the tables as they were, or makes tables without rows. -/
theorem Keyed.open?
    (keyed : store.Keyed) (opened : store.open? = .ok after) :
    after.Keyed := by
  refine ⟨(Store.open?_keeps keyed.sound opened).1, ?_⟩
  intro name table held
  rw [Store.open?] at opened
  split at opened
  · rcases Except.ok.inj opened with rfl
    exact keyed.keys held
  · split at opened
    · contradiction
    · split at opened
      · rcases Except.ok.inj opened with rfl
        exact keyed.keys held
      · split at opened
        · contradiction
        · next tables declared =>
            rcases Except.ok.inj opened with rfl
            simp only [declaredTables, bind, Except.bind] at declared
            split at declared
            · contradiction
            · rw [Desk.declared_fresh declared held]
              exact List.forall_mem_nil _

/-- A transaction of whatever work keeps the keys, whether it is committed or undone. -/
theorem Keyed.transaction
    {Failure α : Type} {refuse : Error → Failure} {mode : AccessMode} {name : String}
    {work : Workspace → Except Failure α × Workspace} (keyed : store.Keyed)
    (writes : ∀ space : Workspace, space.Reaches (work space).2) :
    (store.transaction refuse mode name work).2.Keyed := by
  cases isOpen : store.isOpen with
  | false =>
      rwa [Store.transaction_closed isOpen]
  | true =>
      cases held : store.tables.get? name with
      | none =>
          rwa [Store.transaction_missing isOpen held]
      | some table =>
          have impossible (uncreated : store.isCreated = false) : False := by
            rw [keyed.sound.created uncreated] at held
            cases held
          have begun (sought : String) :
              Desk.Kept Table.AllKeyed Table.Keyed sought
                ⟨store.tables.modify name fun _ => table, [.begin name mode]⟩ := by
            rw [keyed.sound.wellFormed.ascending.modify_self held]
            refine ⟨keyed.sound.wellFormed, fun _ => keyed.keys, ?_⟩
            intro _ transaction _ _ _ among member
            rw [List.mem_singleton.mp among] at member
            cases member
          have worked (sought : String) :=
            (begun sought).reaches Table.keyed_law (by rw [held]; rfl)
              (writes ⟨table, .begin name mode⟩)
          cases performed : work ⟨table, .begin name mode⟩ with
          | mk outcome space =>
              rw [performed] at worked
              cases outcome with
              | ok answer =>
                  rw [transaction_ok isOpen held performed]
                  exact {
                    sound := ⟨(worked name).wellFormed, fun none => (impossible none).elim⟩
                    keys := fun {sought} {_} found => (worked sought).good _ found }
              | error failure =>
                  rw [transaction_error isOpen held performed]
                  have all : ∀ change ∈ space.transaction.journal,
                      change ∈ space.transaction.journal := fun _ member => member
                  have undone (sought : String) :=
                    (worked sought).undo Table.keyed_law List.mem_cons_self all
                  exact {
                    sound := ⟨(undone name).wellFormed, fun none => (impossible none).elim⟩
                    keys := fun {sought} {_} found => (undone sought).good _ found }

theorem Keyed.run (keyed : store.Keyed) (unit : WorkUnit) : (store.run unit).2.Keyed :=
  keyed.transaction unit.request.perform_reaches

theorem Keyed.performAll
    (keyed : store.Keyed) (mode : AccessMode) (table : String) (steps : List OperationStep) :
    (store.performAll mode table steps).2.Keyed :=
  keyed.transaction (OperationStep.performAll_reaches steps [])

end Store

end LiveTable
