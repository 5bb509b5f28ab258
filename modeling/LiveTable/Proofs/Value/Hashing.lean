import LiveTable.Proofs.Value.Spelling
import LiveTable.Record
import Mathlib.Data.List.Forall2

/-!
# What equal values contribute to a hash

A fingerprint says everything about its value: no fingerprint begins another one, and values of
one fingerprint are identical to the last bit.  Equality is wider than that, by the two zeros of
floating point and by the patterns of NaN.  So equal values hash alike just where their numbers of
floating point agree bit for bit, place by place, and always if none of these is a zero or NaN.
-/

set_option autoImplicit false

namespace LiveTable

/-- Equal numbers other than zeros and NaN have the same bits. -/
theorem Binary64.eq_of_same {x y : Binary64} (same : x.same y) (nonzero : x.isZero = false)
    (number : x.isNaN = false) : x = y := by
  simp only [Binary64.same, order, number, decide_eq_true_eq] at same
  cases other : y.isNaN with
  | true => simp [other] at same
  | false =>
      rw [other] at same
      exact eq_of_units (Std.compare_eq_iff_eq.mp same) nonzero

namespace Value

/-! ## The floating point numbers in a value -/

mutual

/-- The floating point numbers in a value, in the order of their places. -/
def floats : Value → List Binary64
  | .float number => [number]
  | .array items => floatsOfItems items
  | .object fields => floatsOfFields fields
  | _ => []

def floatsOfItems : List Value → List Binary64
  | [] => []
  | item :: rest => item.floats ++ floatsOfItems rest

def floatsOfFields : List (String × Value) → List Binary64
  | [] => []
  | (_, value) :: rest => value.floats ++ floatsOfFields rest

end

/--
Equal values have equal numbers of floating point at the same places, and are identical if the bits
of these agree.
-/
theorem holdsOfSame_floats :
    HoldsOfSame
      (fun a b => List.Forall₂ (fun x y => x.same y = true) a.floats b.floats ∧
        (a.floats = b.floats → a = b))
      (fun a b => List.Forall₂ (fun x y => x.same y = true) (floatsOfItems a) (floatsOfItems b) ∧
        (floatsOfItems a = floatsOfItems b → a = b))
      (fun a b => List.Forall₂ (fun x y => x.same y = true) (floatsOfFields a) (floatsOfFields b) ∧
        (floatsOfFields a = floatsOfFields b → a = b)) where
  null := ⟨.nil, fun _ => rfl⟩
  boolean _ := ⟨.nil, fun _ => rfl⟩
  integer _ := ⟨.nil, fun _ => rfl⟩
  float equal := ⟨.cons equal .nil, fun bits => congrArg Value.float (List.singleton_inj.mp bits)⟩
  string _ := ⟨.nil, fun _ => rfl⟩
  array alike := ⟨alike.1, fun bits => congrArg Value.array (alike.2 bits)⟩
  object alike := ⟨alike.1, fun bits => congrArg Value.object (alike.2 bits)⟩
  noItems := ⟨.nil, fun _ => rfl⟩
  item first more := by
    refine ⟨List.rel_append first.1 more.1, fun bits => ?_⟩
    have parts := List.append_inj bits first.1.length_eq
    rw [first.2 parts.1, more.2 parts.2]
  noFields := ⟨.nil, fun _ => rfl⟩
  field first more := by
    refine ⟨List.rel_append first.1 more.1, fun bits => ?_⟩
    have parts := List.append_inj bits first.1.length_eq
    rw [first.2 parts.1, more.2 parts.2]

/-! ## Fingerprints tell values apart -/

mutual

/-- A fingerprint ends where it ends, whatever follows, and tells its value. -/
theorem eq_of_fingerprint_append (a b : Value) {restA restB : List Mark}
    (marks : a.fingerprint ++ restA = b.fingerprint ++ restB) : a = b ∧ restA = restB := by
  cases a with
  | null => cases b <;> simp_all [fingerprint]
  | boolean | string => cases b <;> simp_all [fingerprint]
  | integer number =>
      cases b with
      | integer other =>
          simp only [fingerprint, List.cons_append, List.nil_append, List.cons.injEq, true_and,
            Mark.word.injEq] at marks
          have words := Int64.toBitVec_inj.mp (congrArg UInt64.toBitVec marks.1)
          exact ⟨congrArg Value.integer words, marks.2⟩
      | _ => simp [fingerprint] at marks
  | float number =>
      rcases number with ⟨bits⟩
      cases b <;> simp_all [fingerprint]
  | array items =>
      cases b with
      | array others =>
          simp only [fingerprint, List.cons_append, List.cons.injEq, Mark.length.injEq] at marks
          rcases marks with ⟨_, lengths, marks⟩
          rcases eq_of_fingerprintItems_append items others lengths marks with ⟨rfl, rest⟩
          exact ⟨rfl, rest⟩
      | _ => simp [fingerprint] at marks
  | object fields =>
      cases b with
      | object others =>
          simp only [fingerprint, List.cons_append, List.cons.injEq, Mark.length.injEq] at marks
          rcases marks with ⟨_, lengths, marks⟩
          rcases eq_of_fingerprintFields_append fields others lengths marks with ⟨rfl, rest⟩
          exact ⟨rfl, rest⟩
      | _ => simp [fingerprint] at marks

/-- Items that follow one another without ends of their own are told by how many they are. -/
theorem eq_of_fingerprintItems_append (a b : List Value) {restA restB : List Mark}
    (lengths : a.length = b.length)
    (marks : fingerprintItems a ++ restA = fingerprintItems b ++ restB) :
    a = b ∧ restA = restB := by
  cases a with
  | nil => cases b <;> simp_all [fingerprintItems]
  | cons first rest =>
      cases b with
      | nil => simp at lengths
      | cons other others =>
          simp only [fingerprintItems, List.append_assoc] at marks
          rcases eq_of_fingerprint_append first other marks with ⟨rfl, onwards⟩
          rcases eq_of_fingerprintItems_append rest others (Nat.succ.inj lengths) onwards with
            ⟨rfl, rest⟩
          exact ⟨rfl, rest⟩

theorem eq_of_fingerprintFields_append (a b : List (String × Value)) {restA restB : List Mark}
    (lengths : a.length = b.length)
    (marks : fingerprintFields a ++ restA = fingerprintFields b ++ restB) :
    a = b ∧ restA = restB := by
  cases a with
  | nil => cases b <;> simp_all [fingerprintFields]
  | cons first rest =>
      cases b with
      | nil => simp at lengths
      | cons other others =>
          rcases first with ⟨name, value⟩
          rcases other with ⟨otherName, otherValue⟩
          simp only [fingerprintFields, List.append_assoc, List.cons_append, List.cons.injEq,
            Mark.text.injEq] at marks
          rcases marks with ⟨rfl, marks⟩
          rcases eq_of_fingerprint_append value otherValue marks with ⟨rfl, onwards⟩
          rcases eq_of_fingerprintFields_append rest others (Nat.succ.inj lengths) onwards with
            ⟨rfl, rest⟩
          exact ⟨rfl, rest⟩

end

variable {a b : Value}

theorem fingerprint_inj : a.fingerprint = b.fingerprint ↔ a = b := by
  constructor
  · intro marks
    have continued : a.fingerprint ++ [] = b.fingerprint ++ [] := by rw [marks]
    exact (eq_of_fingerprint_append a b continued).1
  · rintro rfl
    rfl

/-! ## Equal values -/

theorem fingerprint_eq_iff_floats (equal : a.same b) :
    a.fingerprint = b.fingerprint ↔ a.floats = b.floats :=
  fingerprint_inj.trans ⟨congrArg floats, (holdsOfSame_floats.values a b equal).2⟩

/-- Equal values have the same bits throughout, if the one has no zero and no NaN in it. -/
theorem floats_eq_of_same (equal : a.same b)
    (plain : ∀ x ∈ a.floats, x.isZero = false ∧ x.isNaN = false) : a.floats = b.floats := by
  have pairs := (holdsOfSame_floats.values a b equal).1
  generalize a.floats = found at pairs plain ⊢
  generalize b.floats = others at pairs ⊢
  induction pairs with
  | nil => rfl
  | cons same _ ih =>
      rcases List.forall_mem_cons.mp plain with ⟨⟨nonzero, number⟩, plain⟩
      rw [Binary64.eq_of_same same nonzero number, ih plain]

end Value

theorem Record.fingerprint_eq_iff {a b : Record} :
    a.fingerprint = b.fingerprint ↔ a.toValue.fingerprint = b.toValue.fingerprint := by
  simp only [Record.fingerprint, Record.toValue, Value.fingerprint, OrderedMap.size,
    List.cons.injEq, true_and]

/--
Equal values leave the same fingerprint just where all their numbers of floating point, however
deep, agree bit for bit, and so do equal records.  The numbers at one place are equal, so that
they have to be two zeros or two patterns of NaN to disagree: without a zero or NaN in one of them,
equal values and equal records leave the same fingerprint.
-/
theorem equal_values_hash_alike (a b : Value) (first second : Record) :
    (a == b →
      (a.fingerprint = b.fingerprint ↔ a.floats = b.floats) ∧
        ((∀ x ∈ a.floats, x.isZero = false ∧ x.isNaN = false) → a.fingerprint = b.fingerprint)) ∧
      (first == second →
        (first.fingerprint = second.fingerprint ↔ first.toValue.floats = second.toValue.floats) ∧
          ((∀ x ∈ first.toValue.floats, x.isZero = false ∧ x.isNaN = false) →
            first.fingerprint = second.fingerprint)) := by
  have values {a b : Value} (equal : a.same b) :
      (a.fingerprint = b.fingerprint ↔ a.floats = b.floats) ∧
        ((∀ x ∈ a.floats, x.isZero = false ∧ x.isNaN = false) → a.fingerprint = b.fingerprint) :=
    have alike := Value.fingerprint_eq_iff_floats equal
    ⟨alike, fun plain => alike.mpr (Value.floats_eq_of_same equal plain)⟩
  refine ⟨values, fun equal => ?_⟩
  rw [Record.fingerprint_eq_iff]
  exact values equal

/-- Records of the same numbers hash alike, in whatever order their fields were given. -/
theorem equal_records_hash_alike_in_any_order :
    let first := Record.ofList [("id", .integer 1), ("at", .array [.float ⟨0x3ff8000000000000⟩])]
    let second := Record.ofList [("at", .array [.float ⟨0x3ff8000000000000⟩]), ("id", .integer 1)]
    (first == second) = true ∧
      (∀ x ∈ first.toValue.floats, x.isZero = false ∧ x.isNaN = false) ∧
      first.toValue.fingerprint = second.toValue.fingerprint ∧
      first.fingerprint = second.fingerprint := by
  intro first second
  have equal : (first == second) = true := by decide +kernel
  have plain : ∀ x ∈ first.toValue.floats, x.isZero = false ∧ x.isNaN = false := by decide +kernel
  rcases equal_values_hash_alike first.toValue second.toValue first second with ⟨values, records⟩
  exact ⟨equal, plain, (values equal).2 plain, (records equal).2 plain⟩

/-- The two zeros are equal and hash apart, and so are and do two patterns of NaN. -/
theorem zeros_hash_apart :
    (Value.float (.zero false) == Value.float (.zero true)) = true ∧
      (Value.float (.zero false)).fingerprint ≠ (Value.float (.zero true)).fingerprint ∧
      (Value.float Binary64.nan == Value.float Binary64.nan.neg) = true ∧
      (Value.float Binary64.nan).fingerprint ≠ (Value.float Binary64.nan.neg).fingerprint ∧
      (Record.ofList [("a", .float (.zero false))] ==
        Record.ofList [("a", .float (.zero true))]) = true ∧
      (Record.ofList [("a", .float (.zero false))]).fingerprint ≠
        (Record.ofList [("a", .float (.zero true))]).fingerprint := by
  decide +kernel

end LiveTable
