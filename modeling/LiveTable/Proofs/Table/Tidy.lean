import LiveTable.Proofs.Table.Writing

/-!
# Work that fails tidily

Work is tidy if all that it does to its workspace is writing, and if it has done
nothing but put records where it fails.  Putting back what records replaced restores
rows to the letter, which putting back deleted rows does not.
-/

set_option autoImplicit false

namespace LiveTable

namespace Work

variable {α β : Type}

/-- All that the work does is writing, and where it fails it has only put records. -/
def Tidy (work : Work α) : Prop :=
  ∀ space : Workspace, ∃ changes, space.Writes changes (runOn work space).2 ∧
    ∀ error, (runOn work space).1 = .error error → ∀ change ∈ changes, change.after?.isSome

namespace Tidy

/-- Work whose failure leaves the workspace as it was. -/
theorem of_failure
    {work : Work α} (writing : Writing work)
    (untouched : ∀ space error, (runOn work space).1 = .error error →
      (runOn work space).2 = space) :
    Tidy work := by
  intro space
  cases outcome : (runOn work space).1 with
  | ok answer =>
      rcases writing.journaled space with ⟨changes, writes⟩
      refine ⟨changes, writes, ?_⟩
      intro error failed
      contradiction
  | error error =>
      rw [untouched space error outcome]
      exact ⟨[], .none space, by simp⟩

theorem pure (answer : α) : Tidy (Pure.pure answer : Work α) :=
  of_failure (.of_unchanged fun _ => rfl) fun _ _ _ => rfl

theorem throw (error : Error) : Tidy (MonadExcept.throw error : Work α) :=
  of_failure (.of_unchanged fun _ => rfl) fun _ _ _ => rfl

/-- What cannot fail may follow tidy work. -/
theorem map {work : Work α} (tidy : Tidy work) (change : α → β) :
    Tidy (do Pure.pure (change (← work))) := by
  intro space
  rcases tidy space with ⟨changes, writes, puts⟩
  rw [runOn_bind]
  cases outcome : runOn work space with
  | mk result left =>
      rw [outcome] at writes puts
      cases result with
      | error error =>
          refine ⟨changes, writes, ?_⟩
          intro _ _
          exact puts error rfl
      | ok answer =>
          refine ⟨changes, writes, ?_⟩
          intro error failed
          contradiction

/-- Tidy work may follow what leaves the workspace as it is. -/
theorem bind_reading
    {work : Work α} {next : α → Work β}
    (reads : ∀ space, (runOn work space).2 = space) (rest : ∀ answer, Tidy (next answer)) :
    Tidy (work >>= next) := by
  intro space
  rw [runOn_bind]
  have unchanged := reads space
  cases outcome : runOn work space with
  | mk result left =>
      rw [outcome] at unchanged
      subst unchanged
      cases result with
      | error error => exact ⟨[], .none _, by simp⟩
      | ok answer => exact rest answer _

theorem put (record : Record) (given? : Option Value) : Tidy (Work.put record given?) :=
  of_failure (.put record given?) fun _ _ => runOn_put_refused

/-- Records that are put one after the other are all that was written when one is refused. -/
theorem putAll (records : List Record) : Tidy (Work.putAll records) := by
  have onwards (last : Value) (space : Workspace) :
      ∃ changes,
        space.Writes changes
            (runOn (records.foldlM (fun _ record => Work.put record none) last) space).2 ∧
          ∀ change ∈ changes, change.after?.isSome := by
    induction records generalizing last space with
    | nil => exact ⟨[], .none space, by simp⟩
    | cons record rest ih =>
        rw [List.foldlM_cons, runOn_bind, runOn_put]
        cases written : space.transaction.put space.table record none with
        | error error => exact ⟨[], .none space, by simp⟩
        | ok stored =>
            rcases stored with ⟨key, table, transaction⟩
            rcases Transaction.put_ok written with ⟨kept, _, changed, noted⟩
            rcases ih key ⟨table, transaction⟩ with ⟨changes, writes, puts⟩
            refine ⟨_, .more changed noted writes, ?_⟩
            rintro other (_ | ⟨_, later⟩)
            · rfl
            · exact puts other later
  intro space
  rcases onwards .null space with ⟨changes, writes, puts⟩
  exact ⟨changes, writes, fun _ _ => puts⟩

theorem delete (key : Value) : Tidy (Work.delete key) :=
  of_failure (.delete key) fun _ _ failed => runOn_delete_vain (by simp [failed])

end Tidy

theorem runOn_delete_writable
    {space : Workspace} (writable : space.transaction.mode = .readWrite) (key : Value) :
    ∃ deleted left, runOn (delete key) space = (.ok deleted, left) ∧
      left.transaction.mode = .readWrite := by
  cases held : space.table.get? key with
  | some record => exact ⟨true, _, runOn_delete_present writable held, writable⟩
  | none =>
      refine ⟨false, space, ?_, writable⟩
      simp [runOn_delete, Transaction.delete, Transaction.checkWritable, writable, held, bind,
        Except.bind, Pure.pure, Except.pure]

theorem runOn_delete_readOnly
    {space : Workspace} (readOnly : space.transaction.mode = .readOnly) (key : Value) :
    runOn (delete key) space =
      (.error (.readOnlyTransaction space.transaction.table), space) := by
  simp [runOn_delete, Transaction.delete, Transaction.checkWritable, readOnly, bind, Except.bind]

/-- A transaction that may write deletes keys without fail. -/
theorem runOn_deleteAll_writable
    {space : Workspace} (writable : space.transaction.mode = .readWrite) (keys : List Value) :
    ∃ count left, runOn (deleteAll keys) space = (.ok count, left) := by
  have onwards (count : Nat) :
      ∃ answer left,
        runOn (keys.foldlM (fun count key => do
          Pure.pure (if ← Work.delete key then count + 1 else count)) count) space =
            (.ok answer, left) := by
    induction keys generalizing space count with
    | nil => exact ⟨count, space, rfl⟩
    | cons key rest ih =>
        rcases runOn_delete_writable writable key with ⟨deleted, left, ran, stillWritable⟩
        have first :
            runOn (do Pure.pure (if ← Work.delete key then count + 1 else count)) space =
              (.ok (if deleted then count + 1 else count), left) :=
          runOn_bind_ok ran
        rw [List.foldlM_cons, runOn_bind_ok first]
        exact ih stillWritable _
  exact onwards 0

/-- A transaction that must not write refuses the first of the keys. -/
theorem runOn_deleteAll_readOnly
    {space : Workspace} (readOnly : space.transaction.mode = .readOnly) {keys : List Value}
    (some : keys ≠ []) :
    runOn (deleteAll keys) space =
      (.error (.readOnlyTransaction space.transaction.table), space) := by
  cases keys with
  | nil => contradiction
  | cons key rest =>
      have refused :
          runOn (do Pure.pure (if ← Work.delete key then 0 + 1 else 0)) space =
            (.error (.readOnlyTransaction space.transaction.table), space) :=
        runOn_bind_error (runOn_delete_readOnly readOnly key)
      rw [Work.deleteAll, List.foldlM_cons, runOn_bind_error refused]

/-- Deleting keys fails at the first of them or not at all. -/
theorem Tidy.deleteAll (keys : List Value) : Tidy (Work.deleteAll keys) := by
  apply of_failure (.deleteAll keys)
  intro space error failed
  cases mode : space.transaction.mode with
  | readOnly =>
      by_cases some : keys = []
      · subst some
        rfl
      · rw [runOn_deleteAll_readOnly mode some]
  | readWrite =>
      rcases runOn_deleteAll_writable mode keys with ⟨answer, left, ran⟩
      rw [ran] at failed
      contradiction

end Work

end LiveTable
