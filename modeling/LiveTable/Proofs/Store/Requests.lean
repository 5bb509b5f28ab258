import LiveTable.Engine.Request
import LiveTable.Proofs.Table.Writing

/-!
# Requests write

Whatever a request does, it does by putting and deleting in its workspace: queries and
updates are put together from reading and writing, and a list of operations goes on
writing after a failure that it catches.
-/

set_option autoImplicit false

namespace LiveTable

namespace Work.Writing

variable {α β : Type}

theorem pure (answer : α) : Writing (Pure.pure answer : Work α) :=
  of_unchanged fun _ => rfl

theorem throw (error : Error) : Writing (MonadExcept.throw error : Work α) :=
  of_unchanged fun _ => rfl

theorem reading {next : Table → Work β} (rest : ∀ table, Writing (next table)) :
    Writing (Work.table >>= next) :=
  bind (of_unchanged fun _ => rfl) rest

theorem clear : Writing Work.clear :=
  reading fun table => deleteAll table.rows.keys

end Work.Writing

open Work (Writing)

theorem Collection.delete_writing (collection : Collection) : Writing collection.delete :=
  .reading fun table => .deleteAll (collection.keys table)

namespace Descriptor

theorem project_writing (projection : Projection) (collection : Collection) :
    Writing (project projection collection) := by
  apply Writing.reading
  intro table
  cases projection with
  | erase => exact collection.delete_writing.map QueryResult.deleted
  | count => exact .pure _
  | primaryKeys => exact .pure _
  | toArray => exact .pure _
  | none => exact .pure _

theorem run_writing (descriptor : Descriptor) : Writing descriptor.run := by
  apply Writing.reading
  intro table
  cases descriptor.plan table.schema with
  | error error => exact .throw error
  | ok collection => exact project_writing descriptor.projection collection

theorem findFirst_writing (descriptor : Descriptor) : Writing descriptor.findFirst :=
  descriptor.firstKey.run_writing.map fun result => result.keys?.bind List.head?

end Descriptor

theorem QueryEnd.finish_writing (finish : QueryEnd) (collection : Collection) :
    Writing (finish.finish collection) := by
  apply Writing.reading
  intro table
  cases finish with
  | delete => exact collection.delete_writing.map Answer.number
  | count => exact .pure _
  | keys => exact .pure _
  | records => exact .pure _
  | first => exact .pure _
  | summary => exact .pure _

theorem Operation.perform_writing (operation : Operation) : Writing operation.perform := by
  cases operation with
  | put record key? => exact (Writing.put record key?).map Answer.value
  | putAll records => exact (Writing.putAll records).map Answer.value
  | delete key => exact (Writing.delete key).map Answer.flag
  | clear => exact Writing.clear.map Answer.number
  | run descriptor => exact descriptor.run_writing.map Answer.result
  | collect start steps finish =>
      apply Writing.reading
      intro table
      cases start.collection table.schema with
      | error error => exact .throw error
      | ok collection => exact finish.finish_writing _
  | get key => exact .reading fun _ => .pure _
  | count => exact .reading fun _ => .pure _
  | describe => exact .of_unchanged fun _ => rfl
  | fail message => exact .throw _
  | wait duration => exact .pure _

/-- A list of operations goes on from what a failure left, where it catches it. -/
theorem OperationStep.performAll_reaches (steps : List OperationStep) (answers : List Answer)
    (space : Workspace) : space.Reaches (performAll answers steps space).2 := by
  induction steps generalizing answers space with
  | nil => exact .refl space
  | cons step rest ih =>
      have early := step.operation.perform_writing space
      rw [Work.runOn] at early
      rw [performAll]
      split
      · next performed =>
          rw [performed] at early
          exact early.trans (ih _ _)
      · next performed =>
          rw [performed] at early
          split
          · exact early.trans (ih _ _)
          · exact early

namespace Request

theorem updateFirst_writing (descriptor : Descriptor) (change : Record → Except Error Record) :
    Writing (updateFirst descriptor change) := by
  apply descriptor.findFirst_writing.bind
  intro key?
  cases key? with
  | none => exact .pure none
  | some key =>
      apply Writing.reading
      intro table
      cases table.get? key with
      | none => exact .pure none
      | some current =>
          dsimp only
          cases change current with
          | error error => exact .throw error
          | ok record => exact (Writing.put record (some key)).map fun _ => some key

/-- Whatever a request does to its workspace is putting and deleting. -/
theorem perform_reaches (request : Request) (space : Workspace) :
    space.Reaches (request.perform space).2 := by
  cases request with
  | put record => exact (Writing.put record none).map Outcome.key space
  | putAll records => exact (Writing.putAll records).map Outcome.key space
  | delete key => exact (Writing.delete key).map (fun _ => Outcome.done) space
  | query descriptor => exact descriptor.run_writing.map Outcome.result space
  | deleteBy descriptor => exact descriptor.erasing.run_writing.map Outcome.result space
  | update descriptor change => exact (updateFirst_writing descriptor change).map Outcome.found space
  | firstKey descriptor => exact descriptor.findFirst_writing.map Outcome.found space
  | operations steps => exact OperationStep.performAll_reaches steps [] space

end Request

end LiveTable
