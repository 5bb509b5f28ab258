import LiveTable.Proofs.Engine.Settling
import LiveTable.Proofs.Query.FirstMatch

/-!
# Requests about the first match

The request for the first key of a descriptor is settled with the first of the keys that the
descriptor selects, and an update rewrites the record under that key.  The key is the one
that is stored, whatever the changed record has in its primary key field.  So an update
that writes replaces the record of one row, under the same key, and this is the one change
that is committed; any other update leaves the store as it was opened.

Both look for the first match with a limit of one in the place of the limit of the
descriptor.  A descriptor with a limit of zero, which selects nothing, has a first match
all the same.
-/

set_option autoImplicit false

namespace LiveTable

variable {machine : Machine} {name table : String} {schema : StoreSchema} {config : Config}
  {id : Nat} {descriptor : Descriptor} {ready : Store} {before : Table} {collection : Collection}

/-! ## The first key -/

/-- The request for a first key is settled with the first match, and leaves the store as it was. -/
theorem Machine.RunsNext.settles_firstKey
    (runs : machine.RunsNext id table (.firstKey descriptor)) (keyed : ready.Keyed)
    (opening : machine.engine.store.open? = .ok ready)
    (held : ready.tables.get? table = some before)
    (planned : descriptor.plan before.schema = .ok collection) :
    machine.Settles id (.ok (.found (collection.first.keys before).head?)) ready := by
  let start : Workspace := ⟨before, .begin table .readOnly⟩
  have looked : Work.runOn descriptor.findFirst start =
      (.ok (collection.first.keys before).head?, start) := by
    rw [descriptor.runOn_findFirst, show start.table.schema = before.schema from rfl, planned]
    rfl
  have settles := runs.settles
  rw [Store.attempt_reading opening held keyed.sound.wellFormed.ascending rfl looked] at settles
  exact settles

/-! ## Updates -/

namespace Store

/--
A store after another one in which the record of one row was replaced under its own key:
the keys are the same as they are stored, every other row is there, no other table is
touched, and the outbox has one change more.
-/
structure RewritesRow (ready : Store) (table : String) (before : Table) (key : Value)
    (current stored : Record) (after : Store) (left : Table) : Prop where
  held : after.tables.get? table = some left
  keys : left.rows.keys = before.rows.keys
  found : left.get? key = some stored
  others : ∀ row ∈ before.scan, row.1 ≠ key → row ∈ left.scan
  elsewhere : ∀ other, other ≠ table → after.tables.get? other = ready.tables.get? other
  published : after.outbox = ready.outbox ++ [[⟨table, key, some stored, some current⟩]]

/-- Storing a record under the key of a row, and committing it, rewrites that row. -/
theorem rewritesRow
    (wellFormed : ready.tables.WellFormed) (held : ready.tables.get? table = some before)
    {key : Value} {current : Record} (row : (key, current) ∈ before.scan) (stored : Record) :
    ready.RewritesRow table before key current stored
      ({ ready with tables := ready.tables.modify table fun _ => before.rewrite key stored }.publish
        [.put before.name key stored (some current)])
      (before.rewrite key stored) := by
  have ascending := wellFormed.rows held
  have tables (sought : String) := Tables.get?_replace held (before.rewrite key stored) sought
  have present : (before.get? key).isSome := by
    rw [Table.get?, ascending.get?_of_mem row]
    rfl
  constructor
  · exact (tables table).trans (if_pos rfl)
  · exact Table.keys_rewrite ascending present stored
  · exact before.get?_rewrite key stored
  · exact fun other member apart => Table.mem_scan_rewrite ascending row stored member apart
  · exact fun other apart => (tables other).trans (if_neg apart)
  · rw [wellFormed.named held]
    rfl

end Store

/--
What an update by a descriptor is settled with, and the store that it leaves: the record of
the first match is rewritten, or the store stays as it was opened.
-/
inductive Machine.UpdateSettles (machine : Machine) (id : Nat) (table : String)
    (change : Record → Except Error Record) (ready : Store) (before : Table) :
    Option Value → Prop where
  | unmatched (settles : machine.Settles id (.ok (.found none)) ready) :
      UpdateSettles machine id table change ready before none
  | rejected {key : Value} {current : Record} {error : Error}
      (held : before.get? key = some current) (rejected : change current = .error error)
      (settles : machine.Settles id (.error (error.inTransaction table)) ready) :
      UpdateSettles machine id table change ready before (some key)
  | rewritten {key : Value} {current record : Record} {after : Store} {left : Table}
      (held : before.get? key = some current) (changed : change current = .ok record)
      (settles : machine.Settles id (.ok (.found (some key))) after)
      (rewrites : ready.RewritesRow table before key current (before.withKey record key) after
        left) :
      UpdateSettles machine id table change ready before (some key)

theorem Machine.RunsNext.settles_update {change : Record → Except Error Record}
    (runs : machine.RunsNext id table (.update descriptor change)) (keyed : ready.Keyed)
    (opening : machine.engine.store.open? = .ok ready)
    (held : ready.tables.get? table = some before)
    (planned : descriptor.plan before.schema = .ok collection) :
    machine.UpdateSettles id table change ready before (collection.first.keys before).head? := by
  let start : Workspace := ⟨before, .begin table .readWrite⟩
  have wellFormed := keyed.sound.wellFormed
  have ascending := wellFormed.rows held
  have updated : start.Updated change (collection.first.keys before).head?
      (Work.runOn (Request.updateFirst descriptor change) start).1
      (Work.runOn (Request.updateFirst descriptor change) start).2 :=
    Request.updated ascending (keyed.keys held) rfl planned change
  have settles := runs.settles
  generalize result : Work.runOn (Request.updateFirst descriptor change) start = ran at updated
  rcases ran with ⟨outcome, space⟩
  dsimp only at updated
  generalize (collection.first.keys before).head? = found? at updated ⊢
  cases updated with
  | unmatched =>
      rw [Store.attempt_reading opening held wellFormed.ascending rfl result] at settles
      exact .unmatched settles
  | rejected current rejected =>
      rw [Store.attempt_reading opening held wellFormed.ascending rfl result] at settles
      exact .rejected current rejected settles
  | @rewritten key current record stored present changed =>
      rw [Store.attempt_committed opening held rfl result] at settles
      exact .rewritten present changed settles
        (Store.rewritesRow wellFormed held stored (before.withKey record key))

/-- An update by a descriptor whose clauses cannot be read fails, and leaves the store as it was. -/
theorem Machine.RunsNext.settles_unplanned {change : Record → Except Error Record} {error : Error}
    (runs : machine.RunsNext id table (.update descriptor change)) (keyed : ready.Keyed)
    (opening : machine.engine.store.open? = .ok ready)
    (held : ready.tables.get? table = some before)
    (unplanned : descriptor.plan before.schema = .error error) :
    machine.Settles id (.error (error.inTransaction table)) ready := by
  let start : Workspace := ⟨before, .begin table .readWrite⟩
  have looked : Work.runOn descriptor.findFirst start = (.error error, start) := by
    rw [descriptor.runOn_findFirst, show start.table.schema = before.schema from rfl, unplanned]
    rfl
  have failed : Work.runOn (Request.updateFirst descriptor change) start = (.error error, start) :=
    Work.runOn_bind_error looked
  have settles := runs.settles
  rw [Store.attempt_reading opening held keyed.sound.wellFormed.ascending rfl failed] at settles
  exact settles

/-- The keys that a descriptor selects, whatever its own projection, are those of its plan. -/
theorem Descriptor.plan_of_keys {transaction : Transaction} {keys : List Value}
    (selects : (Work.runOn (descriptor.projecting .primaryKeys).run ⟨before, transaction⟩).1 =
      .ok (.keys keys)) :
    ∃ collection, descriptor.plan before.schema = .ok collection ∧
      collection.keys before = keys := by
  obtain ⟨collection, planned⟩ :
      ∃ collection, descriptor.plan before.schema = .ok collection := by
    simpa using plan_of_run selects
  refine ⟨collection, planned, ?_⟩
  rw [runOn_projecting planned] at selects
  exact QueryResult.keys.inj (Except.ok.inj selects)

/--
The first match of a descriptor is the first of the keys that it selects.  Between any two
steps, on the table as it is then, the request for the first key is settled with the first
key that the descriptor with its projection on keys selects, if there is one.  An update
rewrites the record under this key to the changed one, unless the change fails, and
rewrites nothing if there is none.
-/
theorem first_match_is_first_of_query
    (atWork : (Engine.create name schema config).AtWork machine)
    (opening : machine.engine.store.open? = .ok ready)
    (held : ready.tables.get? table = some before)
    (limited : descriptor.limit? ≠ some 0) {keys : List Value}
    (selects :
      (Work.runOn (descriptor.projecting .primaryKeys).run ⟨before, .begin table .readOnly⟩).1 =
        .ok (.keys keys)) :
    (machine.RunsNext id table (.firstKey descriptor) →
      machine.Settles id (.ok (.found keys.head?)) ready) ∧
    ∀ change, machine.RunsNext id table (.update descriptor change) →
      (keys = [] → machine.Settles id (.ok (.found none)) ready) ∧
      ∀ key, keys.head? = some key → ∃ current, before.get? key = some current ∧
        (∀ error, change current = .error error →
          machine.Settles id (.error (error.inTransaction table)) ready) ∧
        ∀ record, change current = .ok record → ∃ after left,
          machine.Settles id (.ok (.found (some key))) after ∧
            ready.RewritesRow table before key current (before.withKey record key) after left := by
  have keyed := atWork.keyed.open? opening
  rcases Descriptor.plan_of_keys selects with ⟨collection, planned, rfl⟩
  have first : (collection.first.keys before).head? = (collection.keys before).head? := by
    apply Collection.head?_keys_first
    rwa [Descriptor.limit?_of_plan planned]
  constructor
  · intro runs
    rw [← first]
    exact runs.settles_firstKey keyed opening held planned
  · intro change runs
    have update := runs.settles_update keyed opening held planned
    rw [first] at update
    constructor
    · intro none
      rw [none] at update
      cases update with
      | unmatched settles => exact settles
    · intro key found
      rw [found] at update
      cases update with
      | rejected present rejected settles =>
          refine ⟨_, present, ?_, ?_⟩
          · intro error failed
            rw [rejected] at failed
            rw [← Except.error.inj failed]
            exact settles
          · intro record changed
            rw [rejected] at changed
            contradiction
      | rewritten present changed settles rewrites =>
          refine ⟨_, present, ?_, ?_⟩
          · intro error failed
            rw [changed] at failed
            contradiction
          · intro record again
            rw [changed] at again
            obtain rfl := Except.ok.inj again
            exact ⟨_, _, settles, rewrites⟩

/-- Of two rows the one behind an offset of one is the first match, and is rewritten. -/
theorem first_match_behind_offset :
    let row (n : Int64) : Value × Record := (.integer n, .ofList [("id", .integer n)])
    let before : Table := ⟨⟨"t", "id", false, []⟩, ⟨[row 1, row 2]⟩, 3⟩
    let first : Engine := .create "s" ⟨1, [before.schema]⟩ .standard
    let engine := first.afterCall 40 (.request (.submit none "t" (.putAll [(row 1).2, (row 2).2])))
    let descriptor := { Descriptor.all with offset? := some 1, count := true }
    let change (_ : Record) : Except Error Record := .ok .empty
    (∃ machine, first.AtWork machine ∧ machine.RunsNext engine.nextId "t" (.firstKey descriptor) ∧
      machine.Settles engine.nextId (.ok (.found (some (.integer 2)))) machine.engine.store) ∧
    ∃ machine after left, first.AtWork machine ∧
      machine.RunsNext engine.nextId "t" (.update descriptor change) ∧
      machine.Settles engine.nextId (.ok (.found (some (.integer 2)))) after ∧
      after.tables.get? "t" = some left ∧ left.get? (.integer 2) = some (row 2).2 ∧
      row 1 ∈ left.scan := by
  intro row before first engine descriptor change
  let ready : Store := ⟨"s", ⟨1, [before.schema]⟩, ⟨[("t", before)]⟩, true, true, none, []⟩
  have reachable : first.Reachable engine := .afterCall .start 40 _
  have stored : engine.store = ready := by
    subst ready engine first before row
    rfl
  have atRest : engine.isAtRest = true := by
    subst engine first before row
    rfl
  have held : ready.tables.get? "t" = some before := OrderedMap.get?_insert_self .empty "t" before
  have limited : descriptor.limit? ≠ some 0 := nofun
  have selects :
      (Work.runOn (descriptor.projecting .primaryKeys).run ⟨before, .begin "t" .readOnly⟩).1 =
        .ok (.keys [.integer 2]) := rfl
  constructor
  · rcases reachable.runsNext atRest stored rfl "t" (.firstKey descriptor) with
      ⟨machine, atWork, store, opening, runs⟩
    have settles :=
      (first_match_is_first_of_query atWork opening held limited selects).1 runs
    rw [← store] at settles
    exact ⟨machine, atWork, runs, settles⟩
  · rcases reachable.runsNext atRest stored rfl "t" (.update descriptor change) with
      ⟨machine, atWork, store, opening, runs⟩
    rcases ((first_match_is_first_of_query atWork opening held limited selects).2 change runs).2
      (.integer 2) rfl with ⟨current, _, _, changes⟩
    rcases changes .empty rfl with ⟨after, left, settles, rewrites⟩
    refine ⟨machine, after, left, atWork, runs, settles, rewrites.held, ?_, ?_⟩
    · rw [rewrites.found]
      subst before row
      rfl
    · exact rewrites.others (row 1) (by simp [before, Table.scan]) (by simp [row])

/-- A descriptor with a limit of zero selects no key, and has a first key all the same. -/
theorem first_match_of_nothing :
    let row : Value × Record := (.integer 1, .ofList [("id", .integer 1)])
    let before : Table := ⟨⟨"t", "id", false, []⟩, ⟨[row]⟩, 2⟩
    let first : Engine := .create "s" ⟨1, [before.schema]⟩ .standard
    let engine := first.afterCall 40 (.request (.submit none "t" (.put row.2)))
    let descriptor := { Descriptor.all with limit? := some 0 }
    ∃ machine, first.AtWork machine ∧ machine.RunsNext engine.nextId "t" (.firstKey descriptor) ∧
      machine.engine.store.tables.get? "t" = some before ∧
      (Work.runOn (descriptor.projecting .primaryKeys).run ⟨before, .begin "t" .readOnly⟩).1 =
        .ok (.keys []) ∧
      ∀ outcome after, machine.Settles engine.nextId outcome after →
        outcome = .ok (.found (some (.integer 1))) := by
  intro row before first engine descriptor
  let ready : Store := ⟨"s", ⟨1, [before.schema]⟩, ⟨[("t", before)]⟩, true, true, none, []⟩
  have reachable : first.Reachable engine := .afterCall .start 40 _
  have stored : engine.store = ready := by
    subst ready engine first before row
    rfl
  have atRest : engine.isAtRest = true := by
    subst engine first before row
    rfl
  rcases reachable.runsNext atRest stored rfl "t" (.firstKey descriptor) with
    ⟨machine, atWork, store, opening, runs⟩
  have held : ready.tables.get? "t" = some before := OrderedMap.get?_insert_self .empty "t" before
  have planned : descriptor.plan before.schema = .ok (Collection.all.take 0) := rfl
  have found := runs.settles_firstKey (atWork.keyed.open? opening) opening held planned
  refine ⟨machine, atWork, runs, by rw [store, held], rfl, ?_⟩
  intro outcome after settles
  exact (settles.unique found).1

/-- Opening puts nothing into the outbox. -/
theorem Store.opened_outbox (store : Store) : store.opened.outbox = store.outbox := by
  cases opening : store.open? with
  | error error => rw [opened_of_error opening]
  | ok ready =>
      rw [opened_of_ok opening]
      rcases of_open? opening with ⟨rfl, _⟩ | ⟨tables, rfl⟩ <;> rfl

/--
An update by a descriptor touches one row or none.  Run between any two steps, it is
settled at once.  Either it is settled with the key of a row, and then the keys are
the same as they are stored, the record under that key is the changed one, with the key set
in its primary key field unless that is a path, every other row and every other table
is as it was, and one change is committed, which is an update.  Or it is settled with no
key or with an error, and then the store is as it was opened and nothing is committed.
-/
theorem update_touches_one_row
    (atWork : (Engine.create name schema config).AtWork machine)
    {change : Record → Except Error Record}
    (runs : machine.RunsNext id table (.update descriptor change)) :
    ∃ outcome after, machine.Settles id outcome after ∧
      ((∃ key before current record stored left update,
        outcome = .ok (.found (some key)) ∧
        machine.engine.store.opened.tables.get? table = some before ∧
        after.tables.get? table = some left ∧
        before.get? key = some current ∧ change current = .ok record ∧
        stored = (if before.schema.primaryKey.toList.contains '.' then record
          else record.set before.schema.primaryKey key) ∧
        left.rows.keys = before.rows.keys ∧ left.get? key = some stored ∧
        (∀ row ∈ before.scan, row.1 ≠ key → row ∈ left.scan) ∧
        (∀ other, other ≠ table →
          after.tables.get? other = machine.engine.store.opened.tables.get? other) ∧
        update = ⟨table, key, some stored, some current⟩ ∧ update.kind = .update ∧
        after.outbox = machine.engine.store.outbox ++ [[update]]) ∨
      (outcome = .ok (.found none) ∨ ∃ error, outcome = .error error) ∧
        after = machine.engine.store.opened ∧ after.outbox = machine.engine.store.outbox) := by
  have outbox := machine.engine.store.opened_outbox
  have settles := runs.settles
  cases opening : machine.engine.store.open? with
  | error error =>
      rw [Store.opened_of_error opening] at outbox ⊢
      rw [Store.attempt_of_error opening] at settles
      exact ⟨_, _, settles, Or.inr ⟨Or.inr ⟨_, rfl⟩, rfl, rfl⟩⟩
  | ok ready =>
      have keyed := atWork.keyed.open? opening
      rw [Store.opened_of_ok opening] at outbox ⊢
      cases held : ready.tables.get? table with
      | none =>
          rw [Store.attempt_missing opening held] at settles
          exact ⟨_, _, settles, Or.inr ⟨Or.inr ⟨_, rfl⟩, rfl, outbox⟩⟩
      | some before =>
          cases planned : descriptor.plan before.schema with
          | error error =>
              have failed := runs.settles_unplanned keyed opening held planned
              exact ⟨_, _, failed, Or.inr ⟨Or.inr ⟨_, rfl⟩, rfl, outbox⟩⟩
          | ok collection =>
              have update := runs.settles_update keyed opening held planned
              generalize (collection.first.keys before).head? = found? at update
              cases update with
              | unmatched none =>
                  exact ⟨_, _, none, Or.inr ⟨Or.inl rfl, rfl, outbox⟩⟩
              | rejected _ _ failed =>
                  exact ⟨_, _, failed, Or.inr ⟨Or.inr ⟨_, rfl⟩, rfl, outbox⟩⟩
              | rewritten present changed done rewrites =>
                  have published := rewrites.published
                  rw [outbox] at published
                  exact ⟨_, _, done, Or.inl ⟨_, before, _, _, _, _, _, rfl, rfl, rewrites.held,
                    present, changed, rfl, rewrites.keys, rewrites.found, rewrites.others,
                    rewrites.elsewhere, rfl, rfl, published⟩⟩

/--
Of two rows the last one is updated to a record that has null in its primary key field: it
stays under its key, which the record is given back.
-/
theorem update_gives_key_back :
    let row (n : Int64) : Value × Record := (.integer n, .ofList [("id", .integer n)])
    let before : Table := ⟨⟨"t", "id", false, []⟩, ⟨[row 1, row 2]⟩, 3⟩
    let first : Engine := .create "s" ⟨1, [before.schema]⟩ .standard
    let engine := first.afterCall 40 (.request (.submit none "t" (.putAll [(row 1).2, (row 2).2])))
    let descriptor := { Descriptor.all with reverse := true }
    let change (_ : Record) : Except Error Record := .ok (.ofList [("id", .null)])
    ∃ machine after left, first.AtWork machine ∧
      machine.RunsNext engine.nextId "t" (.update descriptor change) ∧
      machine.Settles engine.nextId (.ok (.found (some (.integer 2)))) after ∧
      after.tables.get? "t" = some left ∧ left.rows.keys = [.integer 1, .integer 2] ∧
      left.get? (.integer 2) = some (row 2).2 ∧ row 1 ∈ left.scan ∧
      after.outbox = [[⟨"t", .integer 2, some (row 2).2, some (row 2).2⟩]] := by
  intro row before first engine descriptor change
  let ready : Store := ⟨"s", ⟨1, [before.schema]⟩, ⟨[("t", before)]⟩, true, true, none, []⟩
  have reachable : first.Reachable engine := .afterCall .start 40 _
  have stored : engine.store = ready := by
    subst ready engine first before row
    rfl
  have atRest : engine.isAtRest = true := by
    subst engine first before row
    rfl
  rcases reachable.runsNext atRest stored rfl "t" (.update descriptor change) with
    ⟨machine, atWork, store, opening, runs⟩
  have held : ready.tables.get? "t" = some before := OrderedMap.get?_insert_self .empty "t" before
  have planned : descriptor.plan before.schema = .ok Collection.all.reverse := rfl
  have update : machine.UpdateSettles engine.nextId "t" change ready before (some (.integer 2)) :=
    runs.settles_update (atWork.keyed.open? opening) opening held planned
  cases update with
  | rejected _ rejected _ => contradiction
  | rewritten _ _ done _ =>
      rcases update_touches_one_row atWork runs with ⟨outcome, after, settles, touched | untouched⟩
      · obtain ⟨rfl, rfl⟩ := settles.unique done
        rcases touched with ⟨_, table, current, record, given, left, _, same, found, heldAfter,
          present, changed, spelled, keys, foundAfter, others, _, rfl, _, published⟩
        obtain rfl := Option.some.inj (Outcome.found.inj (Except.ok.inj same))
        rw [Store.opened_of_ok opening, held] at found
        obtain rfl := Option.some.inj found
        obtain rfl := Except.ok.inj changed
        have former : (row 2).2 = current := Option.some.inj present
        have written : given = (row 2).2 := by
          rw [spelled]
          subst before row
          rfl
        rw [written] at foundAfter
        rw [written, ← former, store] at published
        exact ⟨machine, _, left, atWork, runs, done, heldAfter, keys, foundAfter,
          others (row 1) (by simp [before, Table.scan]) (by simp [row]), published⟩
      · obtain ⟨rfl, rfl⟩ := settles.unique done
        rcases untouched with ⟨nothing | ⟨_, failed⟩, _⟩
        · cases nothing
        · cases failed

end LiveTable
