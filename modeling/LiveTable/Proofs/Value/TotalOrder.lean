import LiveTable.Value.Order

/-!
# The order of values is a total preorder

`Value.order` is oriented and transitive on all values, arbitrarily nested and of
mixed numeric variants.  It therefore is an instance of `Std.TransOrd`, which is all
that the theory of finite maps in key order asks of keys.

Numbers of both variants are compared through one measure, the exact value in units
with NaN behind every number; the recursive part follows the lists of items and of
fields.
-/

set_option autoImplicit false

namespace LiveTable

/-! ## Chains of comparisons -/

/--
A transitive comparison decides a chain lexicographically: where neither link
descends, the whole descends nowhere and is strict as soon as one link is.
-/
theorem chain_of_transCmp {Element : Type} {cmp : Element → Element → Ordering}
    [Std.TransCmp cmp] {a b c : Element}
    (first : (cmp a b).isLE) (second : (cmp b c).isLE) :
    cmp a c = (cmp a b).then (cmp b c) := by
  cases firstLink : cmp a b with
  | gt => simp [firstLink] at first
  | eq =>
      rw [Std.TransCmp.congr_left firstLink]
      rfl
  | lt =>
      cases secondLink : cmp b c with
      | gt => simp [secondLink] at second
      | eq => exact Std.TransCmp.lt_of_lt_of_eq firstLink secondLink
      | lt => exact Std.TransCmp.lt_trans firstLink secondLink

/-- Chains are closed under the lexicographic product of two comparisons. -/
theorem then_chain
    {first second whole firstRest secondRest wholeRest : Ordering}
    (firstLE : (first.then firstRest).isLE)
    (secondLE : (second.then secondRest).isLE)
    (head : first.isLE → second.isLE → whole = first.then second)
    (rest :
      firstRest.isLE → secondRest.isLE →
        wholeRest = firstRest.then secondRest) :
    whole.then wholeRest =
      (first.then firstRest).then (second.then secondRest) := by
  cases first with
  | gt => simp at firstLE
  | lt =>
      cases second with
      | gt => simp at secondLE
      | lt | eq => rw [head rfl rfl]; rfl
  | eq =>
      cases second with
      | gt => simp at secondLE
      | lt =>
          rw [head rfl rfl]
          cases firstRest with
          | gt => simp at firstLE
          | lt | eq => rfl
      | eq =>
          rw [head rfl rfl]
          exact rest firstLE secondLE

/-! ## Numbers -/

theorem twoPow_pos (exponent : Nat) : 0 < twoPow exponent :=
  Nat.pow_pos Nat.zero_lt_two

namespace Binary64

theorem unitsPerOne_pos : 0 < (unitsPerOne : Int) :=
  Int.ofNat_lt.mpr (twoPow_pos 1074)

/-- NaN lies behind all numbers, which are measured in units. -/
def measure (x : Binary64) : Nat × Int :=
  if x.isNaN then (1, 0) else (0, x.units)

theorem measure_of_nan {x : Binary64} (nan : x.isNaN = true) : x.measure = (1, 0) :=
  if_pos nan

theorem measure_of_number {x : Binary64} (number : x.isNaN = false) : x.measure = (0, x.units) :=
  if_neg (by simp [number])

/-- The order of numbers is the order of their measures. -/
theorem order_eq_compare (a b : Binary64) :
    a.order b = (compare a.measure.1 b.measure.1).then (compare a.measure.2 b.measure.2) := by
  rw [order]
  cases first : a.isNaN with
  | true =>
      rw [measure_of_nan first]
      cases second : b.isNaN with
      | true => rw [measure_of_nan second]; rfl
      | false => rw [measure_of_number second]; rfl
  | false =>
      rw [measure_of_number first]
      cases second : b.isNaN with
      | true => rw [measure_of_nan second]; rfl
      | false => rw [measure_of_number second]; rfl

/--
An integer below the whole part of a number lies below the number, and one above
it lies above: cutting a fraction off moves a number toward zero only.
-/
theorem compare_truncate
    (a : Int) (b : Binary64) (unequal : a ≠ b.truncate) :
    compare a b.truncate = compare (a * unitsPerOne) b.units := by
  have positive := unitsPerOne_pos
  have division : (unitsPerOne : Int) * b.truncate + b.units.tmod unitsPerOne = b.units :=
    Int.mul_tdiv_add_tmod b.units unitsPerOne
  have upper : b.units.tmod unitsPerOne < unitsPerOne :=
    Int.tmod_lt_of_pos b.units positive
  have lower : -(unitsPerOne : Int) < b.units.tmod unitsPerOne :=
    Int.lt_tmod_of_pos b.units positive
  have scaled : (unitsPerOne : Int) * b.truncate = b.truncate * unitsPerOne :=
    Int.mul_comm _ _
  rcases Int.lt_or_gt_of_ne unequal with below | above
  · have product : (a + 1) * (unitsPerOne : Int) ≤ b.truncate * unitsPerOne :=
      Int.mul_le_mul_of_nonneg_right below (Int.le_of_lt positive)
    rw [Int.add_mul, Int.one_mul] at product
    have strictly : a * (unitsPerOne : Int) < b.units := by omega
    rw [Int.compare_eq_lt.mpr below, Int.compare_eq_lt.mpr strictly]
  · have product : (b.truncate + 1) * (unitsPerOne : Int) ≤ a * unitsPerOne :=
      Int.mul_le_mul_of_nonneg_right above (Int.le_of_lt positive)
    rw [Int.add_mul, Int.one_mul] at product
    have strictly : b.units < a * (unitsPerOne : Int) := by omega
    rw [Int.compare_eq_gt.mpr above, Int.compare_eq_gt.mpr strictly]

/-- The order of an integer and a number is the order of their exact values. -/
theorem orderInt_eq_compare
    (a : Int64) (b : Binary64) (isNumber : b.isNaN = false) :
    orderInt a b = compare (a.toInt * unitsPerOne) b.units := by
  have positive := unitsPerOne_pos
  have upper : a.toInt < (twoPow 63 : Int) := a.toInt_lt
  have lower : -(twoPow 63 : Int) ≤ a.toInt := a.le_toInt
  rw [orderInt, if_neg (by simp [isNumber])]
  by_cases beyond : (twoPow 63 * unitsPerOne : Int) ≤ b.units
  · rw [if_pos beyond]
    have product : a.toInt * (unitsPerOne : Int) < (twoPow 63 : Int) * unitsPerOne :=
      Int.mul_lt_mul_of_pos_right upper positive
    exact (Int.compare_eq_lt.mpr (Int.lt_of_lt_of_le product beyond)).symm
  rw [if_neg beyond]
  by_cases below : b.units < -(twoPow 63 * unitsPerOne : Int)
  · rw [if_pos below]
    have product : -(twoPow 63 : Int) * unitsPerOne ≤ a.toInt * (unitsPerOne : Int) :=
      Int.mul_le_mul_of_nonneg_right lower (Int.le_of_lt positive)
    rw [Int.neg_mul] at product
    exact (Int.compare_eq_gt.mpr (Int.lt_of_lt_of_le below product)).symm
  rw [if_neg below]
  by_cases whole : a.toInt = b.truncate
  · rw [whole, Int.compare_eq_eq.mpr rfl]
  · rw [← compare_truncate a.toInt b whole]
    cases decided : compare a.toInt b.truncate with
    | eq => exact absurd (Int.compare_eq_eq.mp decided) whole
    | lt | gt => rfl

/-- Integers keep their order when they are measured in units. -/
theorem compare_units (a b : Int) :
    compare a b = compare (a * unitsPerOne) (b * unitsPerOne) := by
  have positive := unitsPerOne_pos
  rcases Int.lt_trichotomy a b with below | equal | above
  · rw [Int.compare_eq_lt.mpr below,
      Int.compare_eq_lt.mpr (Int.mul_lt_mul_of_pos_right below positive)]
  · rw [equal, Int.compare_eq_eq.mpr rfl, Int.compare_eq_eq.mpr rfl]
  · rw [Int.compare_eq_gt.mpr above,
      Int.compare_eq_gt.mpr (Int.mul_lt_mul_of_pos_right above positive)]

end Binary64

namespace Value

/-- The measure of a number of either variant. -/
def measure : Value → Nat × Int
  | .integer number => (0, number.toInt * Binary64.unitsPerOne)
  | .float number => number.measure
  | _ => (0, 0)

/-- Values compared by their measures. -/
def compareMeasures : Value → Value → Ordering :=
  compareLex (compareOn fun value => value.measure.1) (compareOn fun value => value.measure.2)

instance : Std.TransCmp compareMeasures :=
  inferInstanceAs (Std.TransCmp (compareLex _ _))

theorem compareMeasures_eq (a b : Value) :
    compareMeasures a b =
      (compare a.measure.1 b.measure.1).then (compare a.measure.2 b.measure.2) :=
  rfl

theorem order_integer_float (a : Int64) (b : Binary64) :
    order (.integer a) (.float b) = compareMeasures (.integer a) (.float b) := by
  rw [compareMeasures_eq, order]
  simp only [measure]
  cases isNumber : b.isNaN with
  | true =>
      rw [Binary64.measure_of_nan isNumber, Binary64.orderInt, if_pos isNumber]
      rfl
  | false =>
      rw [Binary64.measure_of_number isNumber, Binary64.orderInt_eq_compare a b isNumber]
      rfl

/-- Two numbers of whatever variants are in the order of their measures. -/
theorem order_of_isNumber
    {a b : Value} (aNumber : a.isNumber) (bNumber : b.isNumber) :
    a.order b = compareMeasures a b := by
  cases a with
  | integer first =>
      cases b with
      | integer second =>
          rw [compareMeasures_eq, order, Binary64.compare_units first.toInt]
          rfl
      | float second => exact order_integer_float first second
      | _ => simp [isNumber] at bNumber
  | float first =>
      cases b with
      | integer second =>
          calc
            order (.float first) (.integer second) =
                (order (.integer second) (.float first)).swap := rfl
            _ = (compareMeasures (.integer second) (.float first)).swap := by
                rw [order_integer_float]
            _ = compareMeasures (.float first) (.integer second) :=
                Std.OrientedCmp.eq_swap.symm
      | float second =>
          rw [compareMeasures_eq, order, Binary64.order_eq_compare]
          rfl
      | _ => simp [isNumber] at bNumber
  | _ => simp [isNumber] at aNumber

theorem swap_of_numbers
    {a b : Value} (aNumber : a.isNumber) (bNumber : b.isNumber) :
    a.order b = (b.order a).swap := by
  rw [order_of_isNumber aNumber bNumber, order_of_isNumber bNumber aNumber]
  exact Std.OrientedCmp.eq_swap

theorem chain_of_numbers
    {a b c : Value}
    (aNumber : a.isNumber) (bNumber : b.isNumber) (cNumber : c.isNumber)
    (first : (a.order b).isLE) (second : (b.order c).isLE) :
    a.order c = (a.order b).then (b.order c) := by
  rw [order_of_isNumber aNumber bNumber] at first ⊢
  rw [order_of_isNumber bNumber cNumber] at second ⊢
  rw [order_of_isNumber aNumber cNumber]
  exact chain_of_transCmp first second

/-! ## Values -/

theorem order_of_rank_ne {a b : Value} (unequal : a.rank ≠ b.rank) :
    a.order b = compare a.rank b.rank := by
  cases a <;> cases b <;> first | rfl | exact absurd rfl unequal

/-- Values in ascending or equal order are of ascending or equal kinds. -/
theorem rank_le_of_order {a b : Value} (ordered : (a.order b).isLE) :
    a.rank ≤ b.rank := by
  by_cases equal : a.rank = b.rank
  · exact Nat.le_of_eq equal
  · rw [order_of_rank_ne equal] at ordered
    exact Nat.isLE_compare.mp ordered

theorem order_of_rank_lt {a b : Value} (below : a.rank < b.rank) :
    a.order b = .lt := by
  rw [order_of_rank_ne (Nat.ne_of_lt below), Nat.compare_eq_lt.mpr below]

mutual

/-- Exchanging two values turns their order round. -/
theorem order_swap (a b : Value) : a.order b = (b.order a).swap := by
  by_cases equal : a.rank = b.rank
  · match a, b, equal with
    | .null, .null, _ => rfl
    | .boolean _, .boolean _, _ | .string _, .string _, _ =>
        rw [order, order]
        exact Std.OrientedOrd.eq_swap
    | .integer _, .integer _, _ => exact swap_of_numbers rfl rfl
    | .integer _, .float _, _ => exact swap_of_numbers rfl rfl
    | .float _, .integer _, _ => exact swap_of_numbers rfl rfl
    | .float _, .float _, _ => exact swap_of_numbers rfl rfl
    | .array first, .array second, _ => exact orderItems_swap first second
    | .object first, .object second, _ => exact orderFields_swap first second
  · rw [order_of_rank_ne equal, order_of_rank_ne (Ne.symm equal)]
    exact Std.OrientedCmp.eq_swap

theorem orderItems_swap :
    ∀ a b : List Value, orderItems a b = (orderItems b a).swap
  | [], [] => rfl
  | [], _ :: _ => rfl
  | _ :: _, [] => rfl
  | a :: restA, b :: restB => by
      rw [orderItems, orderItems, Ordering.swap_then, ← order_swap a b,
        ← orderItems_swap restA restB]

theorem orderFields_swap :
    ∀ a b : List (String × Value), orderFields a b = (orderFields b a).swap
  | [], [] => rfl
  | [], _ :: _ => rfl
  | _ :: _, [] => rfl
  | (nameA, a) :: restA, (nameB, b) :: restB => by
      rw [orderFields, orderFields, Ordering.swap_then, Ordering.swap_then,
        ← order_swap a b, ← orderFields_swap restA restB,
        ← Std.OrientedOrd.eq_swap]

end

mutual

/-- The order of values decides chains lexicographically. -/
theorem order_chain (a b c : Value)
    (first : (a.order b).isLE) (second : (b.order c).isLE) :
    a.order c = (a.order b).then (b.order c) := by
  have firstRank := rank_le_of_order first
  have secondRank := rank_le_of_order second
  rcases Nat.lt_or_eq_of_le firstRank with firstBelow | firstEqual
  · rw [order_of_rank_lt firstBelow, order_of_rank_lt (Nat.lt_of_lt_of_le firstBelow secondRank)]
    rfl
  rcases Nat.lt_or_eq_of_le secondRank with secondBelow | secondEqual
  · rw [order_of_rank_lt secondBelow, order_of_rank_lt (Nat.lt_of_le_of_lt firstRank secondBelow)]
    cases link : a.order b with
    | gt => simp [link] at first
    | lt | eq => rfl
  match a, b, c, firstEqual, secondEqual with
  | .null, .null, .null, _, _ => rfl
  | .boolean _, .boolean _, .boolean _, _, _ | .string _, .string _, .string _, _, _ =>
      rw [order] at first second ⊢
      exact chain_of_transCmp first second
  | .array itemsA, .array itemsB, .array itemsC, _, _ =>
      exact orderItems_chain itemsA itemsB itemsC first second
  | .object fieldsA, .object fieldsB, .object fieldsC, _, _ =>
      exact orderFields_chain fieldsA fieldsB fieldsC first second
  | .integer _, .integer _, .integer _, _, _ => exact chain_of_numbers rfl rfl rfl first second
  | .integer _, .integer _, .float _, _, _ => exact chain_of_numbers rfl rfl rfl first second
  | .integer _, .float _, .integer _, _, _ => exact chain_of_numbers rfl rfl rfl first second
  | .integer _, .float _, .float _, _, _ => exact chain_of_numbers rfl rfl rfl first second
  | .float _, .integer _, .integer _, _, _ => exact chain_of_numbers rfl rfl rfl first second
  | .float _, .integer _, .float _, _, _ => exact chain_of_numbers rfl rfl rfl first second
  | .float _, .float _, .integer _, _, _ => exact chain_of_numbers rfl rfl rfl first second
  | .float _, .float _, .float _, _, _ => exact chain_of_numbers rfl rfl rfl first second

theorem orderItems_chain :
    ∀ a b c : List Value,
      (orderItems a b).isLE → (orderItems b c).isLE →
        orderItems a c = (orderItems a b).then (orderItems b c)
  | [], [], _, _, _ => rfl
  | [], _ :: _, [], _, second => by simp [orderItems] at second
  | [], _ :: _, _ :: _, _, _ => rfl
  | _ :: _, [], _, first, _ => by simp [orderItems] at first
  | _ :: _, _ :: _, [], _, second => by simp [orderItems] at second
  | a :: restA, b :: restB, c :: restC, first, second =>
      then_chain first second (order_chain a b c) (orderItems_chain restA restB restC)

theorem orderFields_chain :
    ∀ a b c : List (String × Value),
      (orderFields a b).isLE → (orderFields b c).isLE →
        orderFields a c = (orderFields a b).then (orderFields b c)
  | [], [], _, _, _ => rfl
  | [], _ :: _, [], _, second => by simp [orderFields] at second
  | [], _ :: _, _ :: _, _, _ => rfl
  | _ :: _, [], _, first, _ => by simp [orderFields] at first
  | _ :: _, _ :: _, [], _, second => by simp [orderFields] at second
  | (nameA, a) :: restA, (nameB, b) :: restB, (nameC, c) :: restC, first, second =>
      then_chain first second
        (fun firstField secondField =>
          then_chain firstField secondField chain_of_transCmp (order_chain a b c))
        (orderFields_chain restA restB restC)

end

instance : Std.TransOrd Value where
  eq_swap := order_swap _ _
  isLE_trans {a b c} first second := by
    have chain := order_chain a b c first second
    change (a.order c).isLE
    rw [chain]
    change (a.order b).isLE at first
    cases link : a.order b with
    | gt => simp [link] at first
    | lt => rfl
    | eq => exact second

theorem sameKey_iff (a b : Value) : a.sameKey b = true ↔ compare a b = .eq :=
  decide_eq_true_iff

theorem sameKey_comm (a b : Value) : a.sameKey b = b.sameKey a := by
  rw [Bool.eq_iff_iff, sameKey_iff, sameKey_iff, Std.OrientedCmp.eq_comm]

end Value

end LiveTable
