import LiveTable.Engine.Request
import LiveTable.Proofs.Query.Coherence
import LiveTable.Proofs.Table.Tidy

/-!
# Requests that run once

All requests but lists of operations are tidy: queries fail before they delete
anything, an update fails before it puts its record, and a list of records has at most
put those before the one that was refused.
-/

set_option autoImplicit false

namespace LiveTable

namespace Descriptor

/-- A query that fails leaves the workspace as it was. -/
theorem run_tidy (descriptor : Descriptor) : Work.Tidy descriptor.run := by
  apply Work.Tidy.bind_reading (fun _ => rfl)
  intro table
  cases descriptor.plan table.schema with
  | error error => exact .throw error
  | ok collection =>
      show Work.Tidy (project descriptor.projection collection)
      apply Work.Tidy.bind_reading (fun _ => rfl)
      intro table
      cases descriptor.projection with
      | erase =>
          have deletes : Work.Tidy collection.delete :=
            .bind_reading (fun _ => rfl) fun current => .deleteAll (collection.keys current)
          exact deletes.map QueryResult.deleted
      | count => exact .pure _
      | primaryKeys => exact .pure _
      | toArray => exact .pure _
      | none => exact .pure _

/-- A query that does not erase leaves the workspace as it was. -/
theorem run_reads
    {descriptor : Descriptor} (reads : descriptor.projection ≠ .erase) (space : Workspace) :
    (Work.runOn descriptor.run space).2 = space := by
  rw [runOn_run]
  cases descriptor.plan space.table.schema with
  | error error => rfl
  | ok collection =>
      cases wanted : descriptor.projection with
      | erase => contradiction
      | count => rfl
      | primaryKeys => rfl
      | toArray => rfl
      | none => rfl

theorem findFirst_reads (descriptor : Descriptor) (space : Workspace) :
    (Work.runOn descriptor.findFirst space).2 = space := by
  have wanted : descriptor.firstKey.projection ≠ .erase := by
    simp [firstKey, projection]
  have reads := run_reads wanted space
  rw [findFirst, Work.runOn_bind]
  cases outcome : Work.runOn descriptor.firstKey.run space with
  | mk result left =>
      rw [outcome] at reads
      cases result with
      | error error => exact reads
      | ok answer => exact reads

end Descriptor

namespace Request

/-- Whether a request is one that runs once, and no list of operations. -/
def isOneShot : Request → Bool
  | .operations _ => false
  | _ => true

theorem updateFirst_tidy (descriptor : Descriptor) (change : Record → Except Error Record) :
    Work.Tidy (updateFirst descriptor change) := by
  apply Work.Tidy.bind_reading descriptor.findFirst_reads
  intro key?
  cases key? with
  | none => exact .pure none
  | some key =>
      apply Work.Tidy.bind_reading (fun _ => rfl)
      intro table
      cases table.get? key with
      | none => exact .pure none
      | some current =>
          dsimp only
          cases change current with
          | error error => exact .throw error
          | ok record => exact (Work.Tidy.put record (some key)).map fun _ => some key

theorem alone_tidy {work : Work Outcome} (tidy : Work.Tidy work) (space : Workspace) :
    ∃ changes, space.Writes changes (alone work space).2 ∧
      ∀ failure, (alone work space).1 = .error failure →
        ∀ change ∈ changes, change.after?.isSome := by
  rcases tidy space with ⟨changes, writes, puts⟩
  refine ⟨changes, writes, ?_⟩
  intro failure failed
  have outcome :
      (alone work space).1 = (Work.runOn work space).1.mapError fun error => ⟨error, []⟩ := rfl
  rw [outcome] at failed
  cases result : (Work.runOn work space).1 with
  | error error => exact puts error result
  | ok answer =>
      rw [result] at failed
      contradiction

theorem perform_query_ok
    {descriptor : Descriptor} {space left : Workspace} {outcome : Outcome}
    (performed : (Request.query descriptor).perform space = (.ok outcome, left)) :
    ∃ answer, outcome = .result answer ∧
      Work.runOn descriptor.run space = (.ok answer, left) := by
  have bound := Work.runOn_bind descriptor.run (fun answer => pure (Outcome.result answer)) space
  cases ran : Work.runOn descriptor.run space with
  | mk result middle =>
      rw [ran] at bound
      have outcomeOf :
          (Request.query descriptor).perform space =
            ((Work.runOn (do pure (Outcome.result (← descriptor.run))) space).1.mapError
                (fun error => OperationFailure.mk error []),
              (Work.runOn (do pure (Outcome.result (← descriptor.run))) space).2) := rfl
      rw [outcomeOf, bound] at performed
      cases result with
      | error error => simp [Except.mapError] at performed
      | ok answer =>
          simp only [Except.mapError, Work.runOn_pure, Prod.mk.injEq, Except.ok.injEq] at performed
          rcases performed with ⟨rfl, rfl⟩
          exact ⟨answer, rfl, rfl⟩

/-- All that a request does is writing, and where it fails it has only put records. -/
theorem perform_tidy {request : Request} (oneShot : request.isOneShot) (space : Workspace) :
    ∃ changes, space.Writes changes (request.perform space).2 ∧
      ∀ failure, (request.perform space).1 = .error failure →
        ∀ change ∈ changes, change.after?.isSome := by
  cases request with
  | put record => exact alone_tidy ((Work.Tidy.put record none).map Outcome.key) space
  | putAll records => exact alone_tidy ((Work.Tidy.putAll records).map Outcome.key) space
  | delete key => exact alone_tidy ((Work.Tidy.delete key).map fun _ => .done) space
  | query descriptor => exact alone_tidy (descriptor.run_tidy.map Outcome.result) space
  | deleteBy descriptor =>
      exact alone_tidy (descriptor.erasing.run_tidy.map Outcome.result) space
  | update descriptor change =>
      exact alone_tidy ((updateFirst_tidy descriptor change).map Outcome.found) space
  | firstKey descriptor =>
      have finds : Work.Tidy descriptor.findFirst :=
        .of_failure (.of_unchanged descriptor.findFirst_reads)
          fun space _ _ => descriptor.findFirst_reads space
      exact alone_tidy (finds.map Outcome.found) space
  | operations steps => contradiction

end Request

end LiveTable
