import LiveTable.Proofs.Number.WholeTexts
import LiveTable.Proofs.Value.Sorting

/-!
# Forms of one key

Values of one key are of one kind, and differ in the forms of the numbers in them alone: an
integer, or a floating point number that equals it, and zero with either sign.

Messages do not tell these forms apart, with two exceptions.  The negative zero has a sign, and
among the numbers of 2^53 and more there are some that the fewest digits that read back do not
give exactly.  A value in which no such number occurs is *plain*, and of plain values those of
one key have one text.
-/

set_option autoImplicit false

namespace LiveTable

namespace Binary64

variable {x y : Binary64}

/--
Whether the number is written like the integer that equals it, where there is one: it is not the
negative zero, and its size is below 2^53, or it equals no integer, or its digits are exact.
-/
def isPlain (x : Binary64) : Bool :=
  !(x.isZero && x.isNegative) &&
    (x.magnitude < twoPow 53 * unitsPerOne || orderInt (Int64.ofInt x.truncate) x ≠ .eq ||
      x.displayed = Digits.ofInt x.truncate)

theorem isNegative_of_isPlain (plain : x.isPlain) (zero : x.isZero) : x.isNegative = false := by
  rw [isPlain, zero, Bool.true_and, Bool.and_eq_true, Bool.not_eq_true'] at plain
  exact plain.1

/-- Equal numbers are written alike if neither is the negative zero. -/
theorem displayed_of_order (equal : x.order y = .eq) (first : x.isPlain) (second : y.isPlain) :
    x.displayed = y.displayed := by
  have same : x.same y := decide_eq_true equal
  cases zero : x.isZero with
  | false => exact displayed_of_same same zero
  | true =>
      cases other : y.isZero with
      | false =>
          have back : y.order x = .eq := by
            have swapped : y.order x = (x.order y).swap := Value.order_swap (.float y) (.float x)
            rw [swapped, equal]
            rfl
          exact (displayed_of_same (decide_eq_true back) other).symm
      | true =>
          have positive := isNegative_of_isPlain first zero
          have otherPositive := isNegative_of_isPlain second other
          rw [isZero, decide_eq_true_eq] at zero other
          rw [eq_of_magnitude (positive.trans otherPositive.symm) (zero.trans other.symm)]

/-- An integer and a number of one key have the same units. -/
theorem units_of_orderInt {a : Int64} (equal : orderInt a x = .eq) :
    x.units = a.toInt * unitsPerOne := by
  cases isNumber : x.isNaN with
  | true =>
      rw [orderInt, if_pos isNumber] at equal
      contradiction
  | false =>
      rw [orderInt_eq_compare a x isNumber] at equal
      exact (Std.compare_eq_iff_eq.mp equal).symm

/-- Cut down to an integer, a number is the integer that it equals. -/
theorem truncate_of_orderInt {a : Int64} (equal : orderInt a x = .eq) :
    x.truncate = a.toInt := by
  rw [truncate, units_of_orderInt equal]
  exact Int.mul_tdiv_cancel a.toInt (Int.ne_of_gt unitsPerOne_pos)

/-- A plain number is written like the integer of its key. -/
theorem displayed_of_orderInt {a : Int64} (equal : orderInt a x = .eq) (plain : x.isPlain) :
    x.displayed = Digits.ofInt a.toInt := by
  have units := units_of_orderInt equal
  have magnitude : x.magnitude = a.toInt.natAbs * unitsPerOne := by
    rw [← natAbs_units, units, Int.natAbs_mul, Int.natAbs_natCast]
  by_cases none : a.toInt = 0
  · have zero : x.isZero := by
      rw [isZero, magnitude, none, Int.natAbs_zero, Nat.zero_mul, decide_eq_true_eq]
    have positive := isNegative_of_isPlain plain zero
    rw [isZero, decide_eq_true_eq] at zero
    have is : x = Binary64.zero false :=
      eq_of_magnitude (positive.trans (by decide +kernel)) (zero.trans (by decide +kernel))
    rw [is, none]
    decide +kernel
  by_cases small : a.toInt.natAbs < twoPow 53
  · exact displayed_of_units units none small
  · have large : ¬ x.magnitude < twoPow 53 * unitsPerOne := by
      rw [magnitude, Nat.not_lt]
      exact Nat.mul_le_mul_right _ (Nat.le_of_not_lt small)
    have whole := truncate_of_orderInt equal
    simp only [isPlain, whole, Int64.ofInt_toInt, equal, large, Bool.and_eq_true, ne_eq,
      not_true_eq_false, decide_false, Bool.false_or, decide_eq_true_eq] at plain
    exact plain.2

/-- To be plain is to be written like the integer of the key, if there is one. -/
theorem isPlain_iff (x : Binary64) :
    x.isPlain ↔ ∀ a : Int64, orderInt a x = .eq → x.displayed = Digits.ofInt a.toInt := by
  constructor
  · exact fun plain a equal => displayed_of_orderInt equal plain
  · intro written
    rw [isPlain, Bool.and_eq_true, Bool.not_eq_true', Bool.and_eq_false_imp]
    constructor
    · intro zero
      rw [isZero, decide_eq_true_eq] at zero
      cases sign : x.isNegative with
      | false => rfl
      | true =>
          have is : x = Binary64.zero true :=
            eq_of_magnitude (sign.trans (by decide +kernel)) (zero.trans (by decide +kernel))
          rw [is] at written
          exact absurd (written 0 (by decide +kernel)) (by decide +kernel)
    · by_cases equal : orderInt (Int64.ofInt x.truncate) x = .eq
      · have digits := written _ equal
        rw [← truncate_of_orderInt equal] at digits
        simp [digits]
      · simp [equal]

end Binary64

namespace Value

variable {a b : Value}

/-! ## Kinds -/

theorem order_of_sameKey (same : a.sameKey b) : a.order b = .eq :=
  of_decide_eq_true same

/-- Values of one key are of one kind. -/
theorem rank_of_sameKey (same : a.sameKey b) : a.rank = b.rank :=
  Nat.le_antisymm (rank_le_of_order (by rw [order_of_sameKey same]; rfl))
    (rank_le_of_order (by rw [order_of_sameKey (sameKey_symm same)]; rfl))

theorem isNull_congr (same : a.sameKey b) : a.isNull = b.isNull := by
  have kinds := rank_of_sameKey same
  cases a <;> cases b <;> simp_all [rank, isNull]

/-- A text is the only form of its key. -/
theorem asString?_congr (same : a.sameKey b) : a.asString? = b.asString? := by
  have kinds := rank_of_sameKey same
  cases a with
  | string text =>
      cases b with
      | string other =>
          have equal := order_of_sameKey same
          rw [order] at equal
          exact congrArg some (Std.compare_eq_iff_eq.mp equal)
      | _ => simp [rank] at kinds
  | _ => cases b <;> simp_all [rank, asString?]

/-! ## Texts -/

mutual

/-- Whether every floating point number in a value is written like the integer it equals. -/
def isPlain : Value → Bool
  | .float number => number.isPlain
  | .array items => plainItems items
  | .object fields => plainFields fields
  | _ => true

def plainItems : List Value → Bool
  | [] => true
  | item :: rest => isPlain item && plainItems rest

def plainFields : List (String × Value) → Bool
  | [] => true
  | (_, value) :: rest => isPlain value && plainFields rest

end

mutual

/-- Plain values of one key have one text. -/
theorem display_of_order (a b : Value) (equal : a.order b = .eq)
    (first : a.isPlain) (second : b.isPlain) : a.display = b.display := by
  match a, b, rank_of_sameKey (decide_eq_true equal) with
  | .null, .null, _ => rfl
  | .boolean flag, .boolean other, _ =>
      rw [order] at equal
      have same := Std.compare_eq_iff_eq.mp equal
      cases flag <;> cases other <;> first | rfl | contradiction
  | .string text, .string other, _ =>
      rw [order] at equal
      rw [Std.compare_eq_iff_eq.mp equal]
  | .integer whole, .integer other, _ =>
      rw [order] at equal
      rw [Int64.toInt_inj.mp (Std.compare_eq_iff_eq.mp equal)]
  | .integer whole, .float number, _ =>
      exact (Binary64.displayed_of_orderInt equal second).symm
  | .float number, .integer whole, _ =>
      exact Binary64.displayed_of_orderInt (Ordering.swap_eq_eq.mp equal) first
  | .float number, .float other, _ => exact Binary64.displayed_of_order equal first second
  | .array items, .array others, _ =>
      rw [display, display, displayItems_of_order items others equal first second]
  | .object fields, .object others, _ =>
      rw [display, display, displayFields_of_order fields others equal first second]

theorem displayItems_of_order :
    ∀ a b : List Value, orderItems a b = .eq → plainItems a → plainItems b →
      displayItems a = displayItems b
  | [], [], _, _, _ => rfl
  | a :: restA, b :: restB, equal, first, second => by
      rw [orderItems, Ordering.then_eq_eq] at equal
      rw [plainItems, Bool.and_eq_true] at first second
      rw [displayItems, displayItems, display_of_order a b equal.1 first.1 second.1,
        displayItems_of_order restA restB equal.2 first.2 second.2]

theorem displayFields_of_order :
    ∀ a b : List (String × Value), orderFields a b = .eq → plainFields a → plainFields b →
      displayFields a = displayFields b
  | [], [], _, _, _ => rfl
  | (nameA, a) :: restA, (nameB, b) :: restB, equal, first, second => by
      rw [orderFields, Ordering.then_eq_eq, Ordering.then_eq_eq] at equal
      rw [plainFields, Bool.and_eq_true] at first second
      rw [displayFields, displayFields, display_of_order a b equal.1.2 first.1 second.1,
        displayFields_of_order restA restB equal.2 first.2 second.2,
        Std.compare_eq_iff_eq.mp equal.1.1]

end

end Value

end LiveTable
