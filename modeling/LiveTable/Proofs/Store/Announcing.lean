import LiveTable.Proofs.Store.OneShot
import LiveTable.Proofs.Store.Transaction

/-!
# What a store announces

A change of contents is always committed: after a request that ran once, a batch in
the outbox touches every table whose rows are not as they were.  `Store.Announces` is
that statement.  It also holds of opening a store, which makes tables out of nothing.

`Store.Ran` says once what a unit can come to; what follows is read off it.
-/

set_option autoImplicit false

namespace LiveTable

/-! ## Answers -/

/-- What a descriptor answers on a table of a set of tables, run in the mode that it needs. -/
def Descriptor.compiled? (descriptor : Descriptor) (tables : Tables) (name : String) :
    Option QueryResult :=
  match tables.get? name with
  | none => none
  | some table =>
    (Work.runOn descriptor.run ⟨table, .begin name descriptor.mode⟩).1.toOption

theorem Descriptor.of_compiled?
    {descriptor : Descriptor} {tables : Tables} {name : String} {answer : QueryResult}
    (answered : descriptor.compiled? tables name = some answer) :
    ∃ table, tables.get? name = some table ∧
      (Work.runOn descriptor.run ⟨table, .begin name descriptor.mode⟩).1 = .ok answer := by
  rw [compiled?] at answered
  split at answered
  · contradiction
  · next table held =>
      refine ⟨table, held, ?_⟩
      cases outcome : (Work.runOn descriptor.run ⟨table, .begin name descriptor.mode⟩).1 with
      | error error =>
          rw [outcome] at answered
          contradiction
      | ok result =>
          rw [outcome] at answered
          rw [Option.some.inj answered]

theorem Descriptor.runOn_own_mode
    (descriptor : Descriptor) {table : Table} (ascending : table.rows.Ascending)
    (name : String) :
    (Work.runOn descriptor.run ⟨table, .begin name descriptor.mode⟩).1 =
      (descriptor.plan table.schema).map fun collection =>
        collection.answer descriptor.projection table := by
  rw [runOn_run]
  cases descriptor.plan table.schema with
  | error error => rfl
  | ok collection =>
      apply runOn_project ascending
      intro erases
      simp [Transaction.begin, mode, isWrite, erases]

/-- Answers depend on the schema and the rows of a table only. -/
theorem Collection.answer_sameRows
    {first second : Table} (same : first.SameRows second)
    (collection : Collection) (wanted : Projection) :
    collection.answer wanted first = collection.answer wanted second := by
  rcases first with ⟨schema, rows, firstNext⟩
  rcases second with ⟨otherSchema, otherRows, secondNext⟩
  rcases same with ⟨sameSchema, sameRows⟩
  change schema = otherSchema at sameSchema
  change rows = otherRows at sameRows
  subst sameSchema sameRows
  rfl

theorem Descriptor.runOn_sameRows
    {first second : Table} (same : first.SameRows second) (ascending : second.rows.Ascending)
    (descriptor : Descriptor) (name : String) :
    (Work.runOn descriptor.run ⟨first, .begin name descriptor.mode⟩).1 =
      (Work.runOn descriptor.run ⟨second, .begin name descriptor.mode⟩).1 := by
  have firstAscending : first.rows.Ascending := by rwa [same.rows]
  rw [descriptor.runOn_own_mode firstAscending, descriptor.runOn_own_mode ascending, same.schema]
  simp only [Collection.answer_sameRows same]

/-! ## What a store announces -/

/-- A batch of changes touches a table. -/
def Touches (batch : List Change) (name : String) : Prop :=
  ∃ change ∈ batch, change.table = name

/-- A table that was there is there with the same rows. -/
def Tables.KeepsAt (before after : Tables) (name : String) : Prop :=
  ∀ table, before.get? name = some table →
    ∃ kept, after.get? name = some kept ∧ kept.SameRows table

theorem Tables.KeepsAt.refl (tables : Tables) (name : String) : tables.KeepsAt tables name :=
  fun table held => ⟨table, held, .refl table⟩

theorem Tables.KeepsAt.trans
    {first middle last : Tables} {name : String}
    (early : first.KeepsAt middle name) (late : middle.KeepsAt last name) :
    first.KeepsAt last name := by
  intro table held
  rcases early table held with ⟨between, heldBetween, same⟩
  rcases late between heldBetween with ⟨kept, heldKept, sameKept⟩
  exact ⟨kept, heldKept, sameKept.schema.trans same.schema, sameKept.rows.trans same.rows⟩

/-- A descriptor that is answered on a table that is kept is answered in the same way. -/
theorem Descriptor.compiled?_of_keepsAt
    {descriptor : Descriptor} {before after : Tables} {name : String} {answer : QueryResult}
    (kept : before.KeepsAt after name) (wellFormed : before.WellFormed)
    (answered : descriptor.compiled? before name = some answer) :
    descriptor.compiled? after name = some answer := by
  rw [compiled?] at answered ⊢
  cases held : before.get? name with
  | none =>
      rw [held] at answered
      contradiction
  | some table =>
      rcases kept table held with ⟨found, heldFound, same⟩
      rw [held] at answered
      rw [heldFound]
      show (Work.runOn descriptor.run ⟨found, .begin name descriptor.mode⟩).1.toOption = _
      rw [runOn_sameRows same (wellFormed.rows held)]
      exact answered

namespace Store

/-- Tables are in order, and there are none before they have been created. -/
structure Sound (store : Store) : Prop where
  wellFormed : store.tables.WellFormed
  created : store.isCreated = false → store.tables = .empty

/-- Every batch stays, and every table is as it was or is touched by a batch. -/
structure Announces (before after : Store) : Prop where
  outbox : ∀ batch ∈ before.outbox, batch ∈ after.outbox
  told (name : String) :
    before.tables.KeepsAt after.tables name ∨ ∃ batch ∈ after.outbox, Touches batch name

theorem Announces.of_unchanged
    {before after : Store} (outbox : after.outbox = before.outbox)
    (tables : after.tables = before.tables) :
    before.Announces after where
  outbox batch member := by rwa [outbox]
  told name := by
    rw [tables]
    exact Or.inl (.refl before.tables name)

theorem Announces.trans
    {first middle last : Store}
    (early : first.Announces middle) (late : middle.Announces last) :
    first.Announces last where
  outbox batch member := late.outbox batch (early.outbox batch member)
  told name := by
    rcases early.told name with kept | ⟨batch, member, touched⟩
    · rcases late.told name with keptAgain | told
      · exact Or.inl (kept.trans keptAgain)
      · exact Or.inr told
    · exact Or.inr ⟨batch, late.outbox batch member, touched⟩

/-- What a unit that runs once can come to, and the store that it leaves. -/
inductive Ran (store : Store) (unit : WorkUnit) :
    Except OperationFailure Outcome → Store → Prop where
  | refused (failure : OperationFailure) : Ran store unit (.error failure) store
  | failed {table : Table} {space : Workspace} {changes : List Change}
      {failure : OperationFailure}
      (held : store.tables.get? unit.table = some table)
      (performed :
        unit.request.perform ⟨table, .begin unit.table unit.mode⟩ = (.error failure, space))
      (writes : Workspace.Writes ⟨table, .begin unit.table unit.mode⟩ changes space)
      (puts : ∀ change ∈ changes, change.after?.isSome) :
      Ran store unit (.error failure)
        { store with
          tables := Journal.undo changes (store.tables.modify unit.table fun _ => space.table) }
  | done {table : Table} {space : Workspace} {changes : List Change} {outcome : Outcome}
      (held : store.tables.get? unit.table = some table)
      (performed :
        unit.request.perform ⟨table, .begin unit.table unit.mode⟩ = (.ok outcome, space))
      (writes : Workspace.Writes ⟨table, .begin unit.table unit.mode⟩ changes space) :
      Ran store unit (.ok outcome)
        ({ store with tables := store.tables.modify unit.table fun _ => space.table }.publish
          changes)

theorem ran (store : Store) {unit : WorkUnit} (oneShot : unit.request.isOneShot) :
    Ran store unit (store.run unit).1 (store.run unit).2 := by
  cases isOpen : store.isOpen with
  | false =>
      rw [run, transaction_closed isOpen]
      exact .refused _
  | true =>
      cases held : store.tables.get? unit.table with
      | none =>
          rw [run, transaction_missing isOpen held]
          exact .refused _
      | some table =>
          rcases unit.request.perform_tidy oneShot ⟨table, .begin unit.table unit.mode⟩ with
            ⟨changes, writes, puts⟩
          cases performed : unit.request.perform ⟨table, .begin unit.table unit.mode⟩ with
          | mk outcome space =>
              rw [performed] at writes puts
              have journal : space.transaction.journal = changes := writes.journal
              cases outcome with
              | error failure =>
                  rw [run, transaction_error isOpen held performed, journal]
                  exact .failed held performed writes (puts failure rfl)
              | ok outcome =>
                  rw [run, transaction_ok isOpen held performed, journal]
                  exact .done held performed writes

theorem publish_tables (store : Store) (batch : List Change) :
    (store.publish batch).tables = store.tables :=
  rfl

theorem mem_outbox_publish
    {store : Store} {batch former : List Change} (member : former ∈ store.outbox) :
    former ∈ (store.publish batch).outbox := by
  rw [publish, enqueue]
  split
  · exact member
  · exact List.mem_append_left _ member

theorem mem_publish (store : Store) {batch : List Change} (some : batch ≠ []) :
    batch ∈ (store.publish batch).outbox := by
  rw [publish, enqueue, if_neg (by simpa using some)]
  exact List.mem_append_right _ List.mem_cons_self

/-- Work that notes no change leaves the tables as they were. -/
theorem modify_of_quiet
    {store : Store} (sound : store.Sound) {name : String} {table : Table}
    {transaction : Transaction} {space : Workspace} {changes : List Change}
    (held : store.tables.get? name = some table)
    (writes : Workspace.Writes ⟨table, transaction⟩ changes space) (quiet : changes = []) :
    (store.tables.modify name fun _ => space.table) = store.tables := by
  subst quiet
  cases writes with
  | none => exact sound.wellFormed.ascending.modify_self held

theorem touches_of_writes
    {store : Store} (sound : store.Sound) {name : String} {table : Table}
    {transaction : Transaction} {space : Workspace} {changes : List Change}
    (held : store.tables.get? name = some table)
    (writes : Workspace.Writes ⟨table, transaction⟩ changes space) (some : changes ≠ []) :
    Touches changes name := by
  rcases List.exists_mem_of_ne_nil changes some with ⟨change, member⟩
  refine ⟨change, member, ?_⟩
  rw [writes.names change member]
  exact sound.wellFormed.named held

namespace Ran

variable {store after : Store} {unit : WorkUnit} {result : Except OperationFailure Outcome}

theorem sound (ran : Ran store unit result after) (before : store.Sound) : after.Sound := by
  have impossible
      {table : Table} (held : store.tables.get? unit.table = some table)
      (uncreated : store.isCreated = false) : False := by
    rw [before.created uncreated] at held
    exact nomatch held
  cases ran with
  | refused failure => exact before
  | failed held performed writes puts =>
      have made := writes.toTables before.wellFormed held
      constructor
      · exact (before.wellFormed.writes made).undo _
      · exact fun uncreated => (impossible held uncreated).elim
  | done held performed writes =>
      have made := writes.toTables before.wellFormed held
      constructor
      · exact before.wellFormed.writes made
      · exact fun uncreated => (impossible held uncreated).elim

/-- A transaction changes no rows without putting a batch that touches them into the outbox. -/
theorem announces (ran : Ran store unit result after) (before : store.Sound) :
    store.Announces after := by
  cases ran with
  | refused failure => exact .of_unchanged rfl rfl
  | failed held performed writes puts =>
      have made := writes.toTables before.wellFormed held
      constructor
      · exact fun batch member => member
      · intro name
        have restored := made.undo_sameRows before.wellFormed puts name
        refine Or.inl ?_
        intro table heldTable
        rw [heldTable] at restored
        cases found : OrderedMap.get? (Journal.undo _ _) name with
        | none => rw [found] at restored; nomatch restored
        | some kept =>
            rw [found] at restored
            cases restored with
            | some same => exact ⟨kept, rfl, same⟩
  | @done table space changes outcome held performed writes =>
      constructor
      · exact fun batch member => mem_outbox_publish member
      · intro name
        rw [publish_tables]
        by_cases here : name = unit.table
        · by_cases quiet : changes = []
          · rw [modify_of_quiet before held writes quiet]
            exact Or.inl (.refl store.tables name)
          · rw [here]
            exact Or.inr ⟨changes, mem_publish _ quiet, touches_of_writes before held writes quiet⟩
        · refine Or.inl ?_
          intro other heldOther
          refine ⟨other, ?_, .refl other⟩
          rw [Tables.get?_replace held, if_neg here, heldOther]

/--
A query that succeeds is answered on the tables that it leaves, unless a batch that
touches its table is in the outbox.
-/
theorem answers
    {name : String} {descriptor : Descriptor} {outcome : Outcome}
    (ran : Ran store ⟨name, descriptor.mode, .query descriptor⟩ (.ok outcome) after)
    (before : store.Sound) :
    ∃ answer, outcome = .result answer ∧
      ((∃ batch ∈ after.outbox, Touches batch name) ∨
        descriptor.compiled? after.tables name = some answer) := by
  cases ran with
  | @done table space changes _ held performed writes =>
      rcases Request.perform_query_ok performed with ⟨answer, same, answered⟩
      refine ⟨answer, same, ?_⟩
      by_cases quiet : changes = []
      · refine Or.inr ?_
        rw [publish_tables, modify_of_quiet before held writes quiet, Descriptor.compiled?]
        change store.tables.get? name = some table at held
        rw [held]
        change Work.runOn descriptor.run ⟨table, .begin name descriptor.mode⟩ = _ at answered
        show (Work.runOn descriptor.run ⟨table, .begin name descriptor.mode⟩).1.toOption = _
        rw [answered]
        rfl
      · exact Or.inl ⟨changes, mem_publish _ quiet, touches_of_writes before held writes quiet⟩

end Ran

/-! ## Opening -/

theorem createTables_wellFormed
    {schemas : List TableSchema} {tables : Tables}
    (created : createTables schemas = .ok tables) :
    tables.WellFormed := by
  have onwards (first : Tables) (wellFormed : first.WellFormed)
      (made : schemas.foldlM Tables.create first = .ok tables) : tables.WellFormed := by
    clear created
    induction schemas generalizing first with
    | nil =>
        rcases Except.ok.inj made with rfl
        exact wellFormed
    | cons schema rest ih =>
        rw [List.foldlM_cons, Tables.create] at made
        split at made
        · contradiction
        · have inserted :
              Tables.WellFormed (OrderedMap.insert first schema.name (Table.ofSchema schema)) :=
            wellFormed.insert rfl OrderedMap.empty_ascending
          exact ih _ inserted made
  exact onwards .empty Tables.empty_wellFormed created

/-- Opening a store makes tables at most where there were none, and leaves the outbox. -/
theorem open?_keeps
    {store opened : Store} (sound : store.Sound) (done : store.open? = .ok opened) :
    opened.Sound ∧ store.Announces opened := by
  rw [open?] at done
  split at done
  · rcases Except.ok.inj done with rfl
    exact ⟨sound, .of_unchanged rfl rfl⟩
  · split at done
    · contradiction
    · split at done
      · rcases Except.ok.inj done with rfl
        exact ⟨⟨sound.wellFormed, sound.created⟩, .of_unchanged rfl rfl⟩
      · next uncreated =>
          split at done
          · contradiction
          · next tables declared =>
              rcases Except.ok.inj done with rfl
              simp only [declaredTables, bind, Except.bind] at declared
              split at declared
              · contradiction
              · constructor
                · constructor
                  · exact createTables_wellFormed declared
                  · intro never
                    contradiction
                · constructor
                  · exact fun _ member => member
                  · intro name
                    refine Or.inl ?_
                    intro table held
                    rw [sound.created (by simpa using uncreated)] at held
                    contradiction

end Store

end LiveTable
