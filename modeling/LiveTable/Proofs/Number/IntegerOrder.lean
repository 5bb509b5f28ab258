import LiveTable.Proofs.Number.Whole
import Mathlib.Data.Rat.Floor
import Mathlib.Tactic.FieldSimp
import Mathlib.Tactic.Ring

/-!
# Integers among floating point numbers

An integer of 64 bits is compared with a floating point number by their exact values, as
rational numbers.  The number is outside the range of the integers, or it is cut down to an
integer, which is exact as an integer and exact again as a floating point number: then the
integers decide, or what was cut off does.

So neither the rounding of large integers, such as those next to 2^53, nor the different ends
of the range, -2^63 and 2^63, make a difference.
-/

set_option autoImplicit false

namespace LiveTable

namespace Binary64

/-! ## Exact values -/

/--
The rational number that a finite pattern stands for: the fraction, with a leading one unless
the exponent bits are zero, times the power of two that the exponent bits say.
-/
def value (x : Binary64) : ℚ :=
  (if x.isNegative then -1 else 1) *
    if x.exponentBits = 0 then (x.fractionBits : ℚ) / 2 ^ 52 * (2 : ℚ) ^ (-1022 : ℤ)
    else (1 + (x.fractionBits : ℚ) / 2 ^ 52) * (2 : ℚ) ^ ((x.exponentBits : ℤ) - 1023)

theorem twoPow_cast (exponent : Nat) : ((twoPow exponent : Nat) : ℚ) = 2 ^ (exponent : ℤ) := by
  rw [twoPow, zpow_natCast]
  exact Nat.cast_pow 2 exponent

theorem unitsPerOne_cast : ((unitsPerOne : Nat) : ℚ) = 2 ^ (1074 : ℤ) :=
  twoPow_cast 1074

theorem magnitude_cast (x : Binary64) :
    ((x.magnitude : Nat) : ℚ) / unitsPerOne =
      if x.exponentBits = 0 then (x.fractionBits : ℚ) / 2 ^ 52 * (2 : ℚ) ^ (-1022 : ℤ)
      else (1 + (x.fractionBits : ℚ) / 2 ^ 52) * (2 : ℚ) ^ ((x.exponentBits : ℤ) - 1023) := by
  have two : (2 : ℚ) ≠ 0 := two_ne_zero
  rw [magnitude, significand, shift, unitsPerOne_cast, Nat.cast_mul, twoPow_cast, mul_div_assoc,
    ← zpow_sub₀ two]
  have scale : (2 : ℚ) ^ 52 = 2 ^ (52 : ℤ) := rfl
  split
  · next least =>
      rw [least, scale, div_mul_eq_mul_div, mul_div_assoc, ← zpow_sub₀ two]
      rfl
  · next normal =>
      have exponent : (((x.exponentBits - 1 : Nat) : ℤ) - 1074) =
          ((x.exponentBits : ℤ) - 1023) - 52 := by omega
      rw [Nat.cast_add, twoPow_cast, exponent, zpow_sub₀ two _ 52, Nat.cast_ofNat, scale]
      field_simp

/-- The value, in units, is the number of units. -/
theorem value_eq_units (x : Binary64) : x.value = x.units / unitsPerOne := by
  rw [value, ← magnitude_cast, units]
  split
  · rw [Int.cast_neg, Int.cast_natCast, neg_one_mul, neg_div]
  · rw [Int.cast_natCast, one_mul]

theorem compare_value (a : ℤ) (b : Binary64) :
    compare (a * unitsPerOne) b.units = compare (a : ℚ) b.value := by
  have positive : (0 : ℚ) < (unitsPerOne : Nat) := Int.cast_pos.mpr unitsPerOne_pos
  have scaled : ((a * unitsPerOne : ℤ) : ℚ) = a * (unitsPerOne : Nat) := by
    rw [Int.cast_mul, Int.cast_natCast]
  rw [value_eq_units]
  rcases lt_trichotomy (a * unitsPerOne) b.units with below | equal | above
  · rw [compare_lt_iff_lt.mpr below, eq_comm, compare_lt_iff_lt, lt_div_iff₀ positive, ← scaled]
    exact Int.cast_lt.mpr below
  · rw [compare_eq_iff_eq.mpr equal, eq_comm, compare_eq_iff_eq,
      eq_div_iff (ne_of_gt positive), ← scaled, equal]
  · rw [compare_gt_iff_gt.mpr above, eq_comm, compare_gt_iff_gt, div_lt_iff₀ positive,
      ← scaled]
    exact Int.cast_lt.mpr above

/-! ## Conversions -/

/-- The bound of the 64-bit integers, which is the first number above all of them. -/
def integerBound : Binary64 :=
  ofInt (twoPow 63)

/--
The conversion to an integer of 64 bits: the whole part, the nearest end of the range for what
lies outside of it, and zero for what is no number.
-/
def toInt64 (x : Binary64) : Int64 :=
  if x.isNaN then 0
  else Int64.ofInt (max (-(twoPow 63 : ℤ)) (min (twoPow 63 - 1) x.truncate))

/--
The order of an integer and a number, step by step in the two types: the integer is compared
with the number cut down to an integer, and a tie is decided by the number and what is left of
it when that integer is made a number again.
-/
def orderByConversion (a : Int64) (b : Binary64) : Ordering :=
  let whole := ofInt b.toInt64.toInt
  if b.isNaN then .lt
  else if (integerBound.order b).isLE then .lt
  else if (b.order integerBound.neg).isLT then .gt
  else
    match compare a.toInt whole.toInt64.toInt with
    | .eq => whole.order b
    | decided => decided

/-- A number lies in the range of the 64-bit integers, of which the upper end is open. -/
structure InRange (b : Binary64) : Prop where
  number : b.isNaN = false
  lower : -(twoPow 63 * unitsPerOne : ℤ) ≤ b.units
  upper : b.units < twoPow 63 * unitsPerOne

variable {b : Binary64}

/-- Cutting a fraction off leads toward zero. -/
theorem truncate_toward (b : Binary64) :
    (0 ≤ b.units → 0 ≤ b.truncate ∧ b.truncate * unitsPerOne ≤ b.units) ∧
      (b.units ≤ 0 → b.truncate ≤ 0 ∧ b.units ≤ b.truncate * unitsPerOne) := by
  have positive := unitsPerOne_pos
  have division : (unitsPerOne : ℤ) * b.truncate + b.units.tmod unitsPerOne = b.units :=
    Int.mul_tdiv_add_tmod b.units unitsPerOne
  rw [mul_comm] at division
  constructor
  · intro nonneg
    have rest := Int.tmod_nonneg (unitsPerOne : ℤ) nonneg
    exact ⟨Int.tdiv_nonneg nonneg positive.le, by omega⟩
  · intro nonpos
    have rest := Int.tmod_nonneg (unitsPerOne : ℤ) (Int.neg_nonneg_of_nonpos nonpos)
    have part := Int.tdiv_nonneg (Int.neg_nonneg_of_nonpos nonpos) positive.le
    rw [Int.neg_tmod] at rest
    rw [Int.neg_tdiv] at part
    exact ⟨Int.neg_nonneg.mp part, by omega⟩

theorem InRange.truncate_bounds (range : b.InRange) :
    -(twoPow 63 : ℤ) ≤ b.truncate ∧ b.truncate < twoPow 63 := by
  have positive := unitsPerOne_pos
  have some : (0 : ℤ) < twoPow 63 := Int.natCast_pos.mpr (twoPow_pos 63)
  rcases le_total 0 b.units with nonneg | nonpos
  · rcases (truncate_toward b).1 nonneg with ⟨part, below⟩
    have bounded := lt_of_mul_lt_mul_right (below.trans_lt range.upper) positive.le
    exact ⟨by omega, bounded⟩
  · rcases (truncate_toward b).2 nonpos with ⟨part, above⟩
    have lower := range.lower
    rw [← neg_mul] at lower
    exact ⟨le_of_mul_le_mul_right (lower.trans above) positive, by omega⟩

/-- In the range the conversion to an integer only cuts the fraction off. -/
theorem InRange.toInt_toInt64 (range : b.InRange) : b.toInt64.toInt = b.truncate := by
  rcases range.truncate_bounds with ⟨lower, upper⟩
  have clamped : max (-(twoPow 63 : ℤ)) (min (twoPow 63 - 1) b.truncate) = b.truncate := by omega
  rw [toInt64, range.number, if_neg Bool.false_ne_true, clamped]
  exact Int64.toInt_ofInt_of_le lower upper

theorem isNaN_of_isFinite {x : Binary64} (finite : x.isFinite) : x.isNaN = false := by
  rw [isFinite, decide_eq_true_iff] at finite
  simp [isNaN, finite]

/-- The integer that a number is cut down to is a number again, without any rounding. -/
theorem InRange.units_whole (range : b.InRange) :
    (ofInt b.toInt64.toInt).units = b.truncate * unitsPerOne ∧
      (ofInt b.toInt64.toInt).isNaN = false := by
  rcases range.truncate_bounds with ⟨lower, upper⟩
  have converted := ofInt_of_isShort b.isShort_truncate (by omega)
  rw [range.toInt_toInt64]
  exact ⟨converted.1, isNaN_of_isFinite converted.2⟩

/-- Cut down once, a number is not changed by being cut down again. -/
theorem InRange.toInt64_whole (range : b.InRange) :
    (ofInt b.toInt64.toInt).toInt64 = b.toInt64 := by
  rcases range.units_whole with ⟨units, number⟩
  have part : (ofInt b.toInt64.toInt).truncate = b.truncate := by
    rw [truncate, units]
    exact Int.mul_tdiv_cancel _ unitsPerOne_pos.ne'
  rw [toInt64, number, part, toInt64, range.number]

/-! ## The comparison -/

theorem integerBound_units : integerBound.units = twoPow 63 * unitsPerOne := by
  decide +kernel

theorem integerBound_neg_units : integerBound.neg.units = -(twoPow 63 * unitsPerOne) := by
  decide +kernel

theorem order_of_numbers {x y : Binary64} (first : x.isNaN = false) (second : y.isNaN = false) :
    x.order y = compare x.units y.units := by
  simp only [order, first, second]

/-- The conversions between the two types lose nothing that the comparison needs. -/
theorem orderInt_eq_orderByConversion (a : Int64) (b : Binary64) :
    orderInt a b = orderByConversion a b := by
  rw [orderInt, orderByConversion]
  cases number : b.isNaN with
  | true => simp only [if_true]
  | false =>
      have upper : (integerBound.order b).isLE ↔ (twoPow 63 * unitsPerOne : ℤ) ≤ b.units := by
        rw [order_of_numbers (by decide +kernel) number, integerBound_units, Int.isLE_compare]
      have lower : (b.order integerBound.neg).isLT ↔
          b.units < -(twoPow 63 * unitsPerOne : ℤ) := by
        rw [order_of_numbers number (by decide +kernel), integerBound_neg_units,
          Ordering.isLT_iff_eq_lt, Int.compare_eq_lt]
      simp only [upper, lower, Bool.false_eq_true, if_false]
      by_cases above : (twoPow 63 * unitsPerOne : ℤ) ≤ b.units
      · simp only [if_pos above]
      by_cases below : b.units < -(twoPow 63 * unitsPerOne : ℤ)
      · simp only [if_neg above, if_pos below]
      have range : b.InRange := ⟨number, Int.not_lt.mp below, Int.not_le.mp above⟩
      rcases range.units_whole with ⟨units, whole⟩
      simp only [if_neg above, if_neg below, range.toInt64_whole,
        order_of_numbers whole number, units]
      cases decided : compare a.toInt b.truncate <;> simp only [range.toInt_toInt64, decided]

/-- The pattern of an infinity lies beyond all integers, on the side of its sign. -/
theorem orderInt_of_isInfinite (a : Int64) {b : Binary64} (infinite : b.isInfinite) :
    orderInt a b = if b.isNegative then .gt else .lt := by
  rw [isInfinite, Bool.and_eq_true, decide_eq_true_iff, decide_eq_true_iff] at infinite
  have number : b.isNaN = false := by simp [isNaN, infinite]
  have far : twoPow 63 * unitsPerOne < b.magnitude := by
    rw [magnitude, significand, shift, infinite.1, infinite.2, if_neg (by decide), unitsPerOne,
      Nat.add_zero, ← twoPow_add, ← twoPow_add]
    exact twoPow_lt (by decide)
  have far : (twoPow 63 * unitsPerOne : ℤ) < b.magnitude := by exact_mod_cast far
  rw [orderInt, number, if_neg Bool.false_ne_true, units]
  cases b.isNegative with
  | false => simp only [Bool.false_eq_true, if_false, if_pos far.le]
  | true =>
      simp only [if_true]
      rw [if_neg (by omega), if_pos (by omega)]

/-- The whole part is the value rounded toward zero. -/
theorem truncate_eq_round (b : Binary64) :
    b.truncate = if 0 ≤ b.value then ⌊b.value⌋ else ⌈b.value⌉ := by
  have positive : (0 : ℚ) < (unitsPerOne : Nat) := Int.cast_pos.mpr unitsPerOne_pos
  have division : (b.truncate * unitsPerOne : ℤ) + b.units.tmod unitsPerOne = b.units :=
    Int.tdiv_mul_add_tmod b.units unitsPerOne
  have rest : b.units.tmod unitsPerOne < unitsPerOne := Int.tmod_lt_of_pos _ unitsPerOne_pos
  have back : -(unitsPerOne : ℤ) < b.units.tmod unitsPerOne :=
    Int.lt_tmod_of_pos _ unitsPerOne_pos
  have sign : 0 ≤ b.value ↔ 0 ≤ b.units := by
    rw [value_eq_units, le_div_iff₀ positive, zero_mul, Int.cast_nonneg_iff]
  by_cases nonneg : 0 ≤ b.units
  · have below := ((truncate_toward b).1 nonneg).2
    rw [if_pos (sign.mpr nonneg), eq_comm, Int.floor_eq_iff, value_eq_units,
      le_div_iff₀ positive, div_lt_iff₀ positive]
    constructor
    · exact_mod_cast below
    · have above : b.units < (b.truncate + 1) * unitsPerOne := by
        rw [add_mul, one_mul]
        omega
      exact_mod_cast above
  · have above := ((truncate_toward b).2 (Int.not_le.mp nonneg).le).2
    rw [if_neg (mt sign.mp nonneg), eq_comm, Int.ceil_eq_iff, value_eq_units,
      lt_div_iff₀ positive, div_le_iff₀ positive]
    constructor
    · have below : (b.truncate - 1) * unitsPerOne < b.units := by
        rw [sub_mul, one_mul]
        omega
      exact_mod_cast below
    · exact_mod_cast above

/--
Integers of 64 bits are compared with floating point numbers exactly: by the rational value of
a finite number, with every integer below NaN and between the infinities.  The comparison by
conversions from one type to the other comes to the same.  For in the range where it converts,
the number becomes its value rounded toward zero, which is a number again, and the same integer
when it is cut down once more.
-/
theorem integers_compared_exactly (a : Int64) (b : Binary64) :
    (b.isFinite → orderInt a b = compare (a.toInt : ℚ) b.value) ∧
    (b.isNaN → orderInt a b = .lt) ∧
    (b.isInfinite → orderInt a b = if b.isNegative then .gt else .lt) ∧
    orderInt a b = orderByConversion a b ∧
    (b.InRange →
      b.toInt64.toInt = (if 0 ≤ b.value then ⌊b.value⌋ else ⌈b.value⌉) ∧
      (ofInt b.toInt64.toInt).value = b.toInt64.toInt ∧
      (ofInt b.toInt64.toInt).toInt64 = b.toInt64) := by
  refine ⟨?_, ?_, orderInt_of_isInfinite a, orderInt_eq_orderByConversion a b, ?_⟩
  · intro finite
    rw [orderInt_eq_compare a b (isNaN_of_isFinite finite), compare_value]
  · intro nan
    rw [orderInt, if_pos nan]
  · intro range
    refine ⟨range.toInt_toInt64.trans b.truncate_eq_round, ?_, range.toInt64_whole⟩
    rw [value_eq_units, range.units_whole.1, ← range.toInt_toInt64, Int.cast_mul,
      Int.cast_natCast]
    exact mul_div_cancel_right₀ _ (Int.cast_pos.mpr unitsPerOne_pos).ne'

/--
The integer next to 2^53 that is no floating point number lies above 2^53; the least integer is
the number -2^63, which is cut down to it; and every integer lies between an infinity and NaN.
-/
theorem large_integers_compared_exactly :
    let power : Binary64 := ofInt 9007199254740992
    let least : Binary64 := ofInt (-9223372036854775808)
    (power.isFinite = true ∧
      orderInt 9007199254740993 power = compare (9007199254740993 : ℚ) power.value ∧
      orderInt 9007199254740993 power = .gt) ∧
    (nan.isNaN = true ∧ orderInt 9007199254740993 nan = .lt) ∧
    ((infinity true).isInfinite = true ∧ orderInt Int64.minValue (infinity true) = .gt) ∧
    least.InRange ∧ (ofInt least.toInt64.toInt).toInt64 = Int64.minValue ∧
      orderInt Int64.minValue least = orderByConversion Int64.minValue least := by
  intro power least
  have finite : power.isFinite = true := by decide +kernel
  have none : nan.isNaN = true := by decide +kernel
  have infinite : (infinity true).isInfinite = true := by decide +kernel
  have range : least.InRange := ⟨by decide +kernel, by decide +kernel, by decide +kernel⟩
  have whole := (integers_compared_exactly Int64.minValue least).2.2.2
  refine ⟨⟨finite, (integers_compared_exactly 9007199254740993 power).1 finite,
    by decide +kernel⟩, ⟨none, (integers_compared_exactly 9007199254740993 nan).2.1 none⟩,
    ⟨infinite, ?_⟩, range, ?_, whole.1⟩
  · rw [(integers_compared_exactly Int64.minValue (infinity true)).2.2.1 infinite]
    decide +kernel
  · rw [(whole.2 range).2.2]
    decide +kernel

end Binary64

end LiveTable
