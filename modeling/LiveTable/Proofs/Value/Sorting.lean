import LiveTable.Proofs.OrderedMap
import LiveTable.Proofs.Value.Spelling
import LiveTable.Value.Set

/-!
# Sorting and keying by values

The order of values is total: it turns round with its arguments, it is transitive, values
that are the same key are so among each other and stand in the same place of the order,
and values that are equal are the same key.

So a list has one sorted form in which values of one key keep their order, and a map
finds under a key what was last stored under that key in any of its forms.
-/

set_option autoImplicit false

namespace LiveTable

namespace Value

/-! ## Coming before -/

theorem notAfter_total (a b : Value) : (a.notAfter b || b.notAfter a) = true := by
  rw [notAfter, notAfter, order_swap b a]
  cases a.order b <;> rfl

theorem notAfter_trans (a b c : Value) (first : a.notAfter b) (second : b.notAfter c) :
    a.notAfter c :=
  Std.TransOrd.isLE_trans (a := a) (b := b) (c := c) first second

theorem notAfter_of_sameKey {a b : Value} (same : a.sameKey b) : a.notAfter b := by
  rw [sameKey_iff] at same
  show (compare a b).isLE
  rw [same]
  rfl

/-- Two values of which neither comes before the other are the same key. -/
theorem sameKey_of_notAfter {a b : Value} (first : a.notAfter b) (second : b.notAfter a) :
    a.sameKey b := by
  rw [notAfter, order_swap b a] at second
  rw [notAfter] at first
  rw [sameKey, decide_eq_true_iff]
  cases link : a.order b with
  | eq => rfl
  | lt => simp [link] at second
  | gt => simp [link] at first

/-- The order does not tell two forms of one key apart. -/
theorem order_congr_left {a b : Value} (same : a.sameKey b) (c : Value) :
    a.order c = b.order c := by
  have equal : compare a c = compare b c := Std.TransCmp.congr_left ((sameKey_iff a b).mp same)
  exact equal

theorem order_congr_right {a b : Value} (same : a.sameKey b) (c : Value) :
    c.order a = c.order b := by
  have equal : compare c a = compare c b := Std.TransCmp.congr_right ((sameKey_iff a b).mp same)
  exact equal

theorem sameKey_refl (a : Value) : a.sameKey a :=
  (sameKey_iff a a).mpr Std.ReflCmp.compare_self

theorem sameKey_symm {a b : Value} (same : a.sameKey b) : b.sameKey a := by
  rwa [sameKey_comm]

theorem sameKey_trans {a b c : Value} (first : a.sameKey b) (second : b.sameKey c) :
    a.sameKey c := by
  rw [sameKey, order_congr_left first]
  exact second

theorem sameKey_of_same {a b : Value} (equal : a.same b) : a.sameKey b :=
  decide_eq_true_iff.mpr (order_of_same a b equal)

end Value

/-! ## Stable sorting -/

section Stable

variable {Element : Type} (key : Element → Value)

/-- A sorted list is in the order of its keys. -/
theorem mergeSort_keys_ordered (elements : List Element) :
    (elements.mergeSort fun a b => (key a).notAfter (key b)).Pairwise
      fun a b => (key a).notAfter (key b) :=
  List.pairwise_mergeSort (fun a b c => Value.notAfter_trans (key a) (key b) (key c))
    (fun a b => Value.notAfter_total (key a) (key b)) elements

/-- Sorting moves no two elements of one key past each other. -/
theorem filter_mergeSort_sameKey (sought : Value) (elements : List Element) :
    (elements.mergeSort fun a b => (key a).notAfter (key b)).filter
        (fun element => sought.sameKey (key element)) =
      elements.filter fun element => sought.sameKey (key element) := by
  have permuted := List.mergeSort_perm elements fun a b => (key a).notAfter (key b)
  have oneKey :
      (elements.filter fun element => sought.sameKey (key element)).Pairwise
        fun a b => (key a).notAfter (key b) := by
    apply List.pairwise_of_forall_mem_list
    intro a memberA b memberB
    have sameA := (List.mem_filter.mp memberA).2
    have sameB := (List.mem_filter.mp memberB).2
    exact Value.notAfter_of_sameKey (Value.sameKey_trans (Value.sameKey_symm sameA) sameB)
  have kept :
      (elements.filter fun element => sought.sameKey (key element)).Sublist
        (elements.mergeSort fun a b => (key a).notAfter (key b)) :=
    List.sublist_mergeSort (fun a b c => Value.notAfter_trans (key a) (key b) (key c))
      (fun a b => Value.notAfter_total (key a) (key b)) oneKey List.filter_sublist
  have keptFiltered := kept.filter fun element => sought.sameKey (key element)
  rw [List.filter_filter] at keptFiltered
  simp only [Bool.and_self] at keptFiltered
  exact (keptFiltered.eq_of_length (permuted.filter _).length_eq.symm).symm

end Stable

/-! ## The laws -/

namespace Value

/--
The order of values is lawful: it is total and transitive, being the same key is an
equivalence that it respects, and equal values are the same key.  Sorting by it gives the
sorted rearrangement that keeps the order of values of one key, and maps find by it
what was stored under the same key.
-/
theorem order_lawful :
    (∀ a b : Value, a.order b = (b.order a).swap) ∧
      (∀ a b c : Value, a.notAfter b → b.notAfter c → a.notAfter c) ∧
      Equivalence (fun a b : Value => a.sameKey b = true) ∧
      (∀ a b c d : Value, a.sameKey b → c.sameKey d → a.order c = b.order d) ∧
      (∀ a b : Value, a.same b → a.order b = .eq) ∧
      (∀ values : List Value,
        (sorted values).Pairwise (fun a b => a.notAfter b) ∧ (sorted values).Perm values ∧
          ∀ key : Value, (sorted values).filter key.sameKey = values.filter key.sameKey) ∧
      ∀ {Content : Type} (map : OrderedMap Value Content) (key sought : Value)
        (content : Content),
        map.Ascending → (map.insert key content).Ascending ∧
          (map.insert key content).get? sought =
            if sought.sameKey key then some content else map.get? sought := by
  refine ⟨order_swap, notAfter_trans, ⟨sameKey_refl, sameKey_symm, sameKey_trans⟩, ?_,
    order_of_same, ?_, ?_⟩
  · intro a b c d sameA sameC
    rw [order_congr_left sameA, order_congr_right sameC]
  · intro values
    have ordered := mergeSort_keys_ordered id values
    exact ⟨ordered, List.mergeSort_perm values _, fun key =>
      filter_mergeSort_sameKey id key values⟩
  · intro Content map key sought content ascending
    refine ⟨ascending.insert key content, ?_⟩
    rw [OrderedMap.get?_insert]
    simp only [sameKey_iff]

/-- Beyond 2^53 the integers on both sides of a floating point number keep their places. -/
theorem order_lawful_beyond_float_integers :
    let low : Value := .integer 9007199254740992
    let middle : Value := .float (.ofInt 9007199254740992)
    let high : Value := .integer 9007199254740993
    low.sameKey middle ∧ middle.notAfter high ∧ low.notAfter high ∧
      low.order high = middle.order high ∧ middle.order high = .lt := by
  intro low middle high
  have same : low.sameKey middle := by decide +kernel
  have later : middle.order high = .lt := by decide +kernel
  have notAfter : middle.notAfter high := by
    rw [Value.notAfter, later]
    rfl
  rcases order_lawful with ⟨_, trans, _, congr, _⟩
  exact ⟨same, notAfter, trans low middle high (notAfter_of_sameKey same) notAfter,
    congr low middle high high same (sameKey_refl high), later⟩

end Value

end LiveTable
