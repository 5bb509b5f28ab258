import LiveTable.Number.Written
import LiveTable.Proofs.Number.Whole

/-!
# Texts of whole numbers

Messages write a floating point number with the fewest digits that read back, and fill up with
zeros.  Below 2^53 neighbouring numbers are at most one apart, so that no other whole number
reads back as a whole number.  Then the search for the digits, which begins on grids of whole
numbers, ends with the digits of the number itself: it is written like the integer.
-/

set_option autoImplicit false

namespace LiveTable

theorem tenPow_pos (exponent : Nat) : 0 < tenPow exponent :=
  Nat.pow_pos (by decide)

/-! ## Zeros at the end -/

/-- Ten times a number is written with one more zero. -/
theorem Digits.ofNat_tenfold {n : Nat} (some : 0 < n) :
    Digits.ofNat (n * 10) = Digits.ofNat n ++ ['0'] := by
  rw [Digits.ofNat, Nat.toDigits_of_base_le (by decide) (by omega), Nat.mul_div_cancel n (by decide),
    Nat.mul_mod_left]
  rfl

theorem Digits.ofNat_mul_tenPow {n : Nat} (some : 0 < n) (zeros : Nat) :
    Digits.ofNat (n * tenPow zeros) = Digits.ofNat n ++ List.replicate zeros '0' := by
  induction zeros with
  | zero => simp [tenPow]
  | succ zeros ih =>
      have raised : n * tenPow (zeros + 1) = n * tenPow zeros * 10 := by
        rw [Nat.mul_assoc]
        rfl
      rw [raised, Digits.ofNat_tenfold (Nat.mul_pos some (tenPow_pos zeros)), ih,
        List.replicate_succ', List.append_assoc]

namespace Decimal

/-- A decimal is a whole number, of which zeros at the end may be left out. -/
structure Writes (d : Decimal) (n : Nat) : Prop where
  exponent : 0 ≤ d.exponent
  value : d.coefficient * tenPow d.exponent.toNat = n

variable {d : Decimal} {n : Nat}

/-- Leaving out more zeros does not change the number. -/
theorem Writes.trim (writes : d.Writes n) : d.trim.Writes n := by
  fun_induction Decimal.trim d with
  | case1 d ended ih =>
      have exponent := writes.exponent
      refine ih ⟨by simp only; omega, ?_⟩
      have raised : (d.exponent + 1).toNat = d.exponent.toNat + 1 := by omega
      have tenfold : tenPow (d.exponent.toNat + 1) = 10 * tenPow d.exponent.toNat := by
        rw [Nat.mul_comm]
        rfl
      rw [raised, tenfold, ← Nat.mul_assoc, Nat.div_mul_cancel (Nat.dvd_of_mod_eq_zero ended.2)]
      exact writes.value
  | case2 d => exact writes

/-- In positional notation the zeros are there again. -/
theorem Writes.positional (writes : d.Writes n) (some : 0 < n) :
    d.positional = Digits.ofNat n := by
  have exponent := writes.exponent
  have coefficient : 0 < d.coefficient := by
    apply Nat.pos_of_mul_pos_right
    rw [writes.value]
    exact some
  have digits : 0 < d.digits.length := Nat.length_toDigits_pos
  have point : d.point = d.digits.length + d.exponent := rfl
  rw [Decimal.positional, if_neg (by omega), if_pos (by omega), ← writes.value,
    Digits.ofNat_mul_tenPow coefficient]
  have zeros : d.point.toNat - d.digits.length = d.exponent.toNat := by omega
  rw [zeros]
  rfl

end Decimal

namespace Binary64

open Decimal (powerNumerator powerDenominator)

variable {x : Binary64} {n : Nat}

/-! ## Whole numbers below 2^53 -/

/-- The magnitude of a number is a whole number below 2^53 that is not zero. -/
structure IsWhole (x : Binary64) (n : Nat) : Prop where
  magnitude : x.magnitude = n * unitsPerOne
  positive : 0 < n
  small : n < twoPow 53

/-- Neighbouring numbers are at most one apart. -/
theorem IsWhole.shift_le (whole : x.IsWhole n) : twoPow x.shift ≤ unitsPerOne := by
  have upper : x.magnitude < twoPow (53 + 1074) := by
    rw [whole.magnitude, twoPow_add, unitsPerOne]
    exact Nat.mul_lt_mul_of_pos_right whole.small (twoPow_pos 1074)
  have exponent : x.exponentBits < 1076 := by
    apply Nat.lt_of_not_le
    intro large
    have raised : twoPow (53 + 1074) ≤ twoPow (51 + x.exponentBits) :=
      twoPow_le (by omega)
    have lower := le_magnitude (Nat.ne_zero_of_lt large)
    omega
  rw [unitsPerOne, shift]
  exact twoPow_le (by omega)

/-- Of all whole numbers only the number itself reads back as it. -/
theorem IsWhole.nearestTo_iff (whole : x.IsWhole n) (coefficient exponent : Nat) :
    x.nearestTo ⟨coefficient, exponent⟩ ↔ coefficient * tenPow exponent = n := by
  have apart := whole.shift_le
  have width := twoPow_pos x.shift
  have quarters : x.quarters = 4 * (n * unitsPerOne) := by rw [Binary64.quarters, whole.magnitude]
  have some : unitsPerOne ≤ n * unitsPerOne := Nat.le_mul_of_pos_left _ whole.positive
  have upper : x.upperQuarters = 4 * (n * unitsPerOne) + 2 * twoPow x.shift := by
    rw [upperQuarters, quarters]
  have lower : 4 * (n * unitsPerOne) - 2 * twoPow x.shift ≤ x.lowerQuarters ∧
      x.lowerQuarters < 4 * (n * unitsPerOne) := by
    rw [lowerQuarters, quarters]
    split <;> omega
  have numerator : powerNumerator (exponent : Int) = tenPow exponent := rfl
  have denominator : powerDenominator (exponent : Int) = 1 := by
    simp [powerDenominator, tenPow]
  have scaled : coefficient * tenPow exponent * (4 * unitsPerOne) =
      4 * (coefficient * tenPow exponent * unitsPerOne) := Nat.mul_left_comm _ 4 _
  simp only [nearestTo, numerator, denominator, Nat.mul_one, scaled, upper]
  generalize coefficient * tenPow exponent = given at *
  have near : given * unitsPerOne < n * unitsPerOne + unitsPerOne →
      n * unitsPerOne < given * unitsPerOne + unitsPerOne → given = n := by
    intro below above
    rw [← Nat.succ_mul] at below above
    have one := Nat.lt_of_mul_lt_mul_right below
    have other := Nat.lt_of_mul_lt_mul_right above
    omega
  constructor
  · intro reads
    split at reads <;> simp only [Bool.and_eq_true, decide_eq_true_eq] at reads <;>
      exact near (by omega) (by omega)
  · rintro rfl
    split <;> simp only [Bool.and_eq_true, decide_eq_true_eq] <;> omega

/-- On a grid of whole numbers the number is found if it lies there, and nothing else is. -/
theorem IsWhole.onGrid? (whole : x.IsWhole n) (tie : TieRule) (exponent : Nat) :
    Decimal.onGrid? tie x exponent =
      if tenPow exponent ∣ n then some ⟨n / tenPow exponent, exponent⟩ else none := by
  have grid : Decimal.below x exponent = ⟨n / tenPow exponent, exponent⟩ := by
    have denominator : powerDenominator (exponent : Int) = 1 := by
      simp [powerDenominator, tenPow]
    have one : 0 < unitsPerOne := twoPow_pos 1074
    rw [Decimal.below, denominator, whole.magnitude, Nat.mul_one, Nat.mul_comm n,
      Nat.mul_div_mul_left _ _ one]
    rfl
  have above : Decimal.above x exponent = ⟨n / tenPow exponent + 1, exponent⟩ := by
    rw [Decimal.above, grid]
  have passed : ¬ x.nearestTo (Decimal.above x exponent) := by
    rw [above, whole.nearestTo_iff]
    have beyond := Nat.lt_div_mul_add (a := n) (tenPow_pos exponent)
    rw [Nat.succ_mul]
    omega
  have reached : x.nearestTo (Decimal.below x exponent) ↔ tenPow exponent ∣ n := by
    rw [grid, whole.nearestTo_iff]
    exact ⟨fun equal => ⟨_, (Nat.mul_comm _ _ ▸ equal).symm⟩, Nat.div_mul_cancel⟩
  rw [Decimal.onGrid?, Bool.eq_false_iff.mpr passed]
  by_cases divides : tenPow exponent ∣ n
  · rw [if_pos divides, reached.mpr divides, grid]
  · rw [if_neg divides, Bool.eq_false_iff.mpr (mt reached.mp divides)]

/-- The decimal point stands behind the digits of the number, which are no more than 16. -/
theorem IsWhole.pointPosition (whole : x.IsWhole n) :
    Decimal.pointPosition x.magnitude unitsPerOne = (Digits.ofNat n).length := by
  have one : 0 < unitsPerOne := twoPow_pos 1074
  rw [whole.magnitude, Decimal.pointPosition, if_pos (Nat.le_mul_of_pos_left _ whole.positive),
    Nat.mul_div_cancel n one, Digits.count, if_neg (Nat.ne_of_gt whole.positive)]

theorem IsWhole.length_le (whole : x.IsWhole n) :
    (Digits.ofNat n).length ≤ Decimal.enoughDigits := by
  have small : n < 10 ^ 17 := Nat.lt_trans whole.small (by decide)
  exact (Nat.length_toDigits_le_iff (by decide) (by decide)).mpr small

/-- The search ends on a grid of whole numbers, since the number lies on the last of these. -/
theorem IsWhole.shortest (whole : x.IsWhole n) (tie : TieRule) :
    (Decimal.shortest tie x).Writes n := by
  let count := (Digits.ofNat n).length
  have positive : 0 < count := Nat.length_toDigits_pos
  let search (fewer : Nat) : Option Decimal :=
    Decimal.onGrid? tie x (Decimal.pointPosition x.magnitude unitsPerOne - (fewer + 1 : Nat))
  have grid (fewer : Nat) (within : fewer < count) :
      search fewer = if tenPow (count - 1 - fewer) ∣ n then
        some ⟨n / tenPow (count - 1 - fewer), (count - 1 - fewer : Nat)⟩ else none := by
    have exponent : Decimal.pointPosition x.magnitude unitsPerOne - (fewer + 1 : Nat) =
        (count - 1 - fewer : Nat) := by
      rw [whole.pointPosition]
      omega
    rw [← whole.onGrid? tie, ← exponent]
  have last : (search (count - 1)).isSome := by
    rw [grid (count - 1) (by omega), Nat.sub_self, if_pos (show tenPow 0 ∣ n from Nat.one_dvd n)]
    rfl
  have found : ((List.range count).findSome? search).isSome :=
    List.findSome?_isSome_iff.mpr ⟨count - 1, List.mem_range.mpr (by omega), last⟩
  rcases Option.isSome_iff_exists.mp found with ⟨d, found⟩
  have writes : d.Writes n := by
    rcases List.exists_of_findSome?_eq_some found with ⟨fewer, within, is⟩
    rw [grid fewer (List.mem_range.mp within)] at is
    split at is
    · next divides =>
        rcases Option.some.inj is with rfl
        exact ⟨Int.natCast_nonneg _, Nat.div_mul_cancel divides⟩
    · contradiction
  have digits : Decimal.enoughDigits = count + (Decimal.enoughDigits - count) := by
    have enough : count ≤ Decimal.enoughDigits := whole.length_le
    omega
  have searched : (List.range Decimal.enoughDigits).findSome? search = some d := by
    rw [digits, List.range_add, List.findSome?_append, found]
    rfl
  show ((((List.range Decimal.enoughDigits).findSome? search).getD _).trim).Writes n
  rw [searched]
  exact writes.trim

/-- A whole number below 2^53 is written like the integer, unless it is a zero. -/
theorem IsWhole.displayed (whole : x.IsWhole n) :
    x.displayed = if x.isNegative then '-' :: Digits.ofNat n else Digits.ofNat n := by
  have some : x.isZero = false := by
    rw [isZero, whole.magnitude, decide_eq_false_iff_not]
    exact Nat.mul_ne_zero (Nat.ne_of_gt whole.positive) (Nat.ne_of_gt (twoPow_pos 1074))
  have exponent : x.exponentBits ≠ 2047 := by
    intro infinite
    have apart := whole.shift_le
    rw [shift, infinite, unitsPerOne] at apart
    exact absurd apart (Nat.not_le.mpr (twoPow_lt (by decide)))
  have number : x.isNaN = false ∧ x.isInfinite = false := by simp [isNaN, isInfinite, exponent]
  rw [Binary64.displayed, orSpecial, number.1, number.2, some, if_neg Bool.false_ne_true,
    if_neg Bool.false_ne_true, if_neg Bool.false_ne_true,
    (whole.shortest .up).positional whole.positive]
  rfl

/-- Messages do not tell integers below 2^53 from the floating point numbers that equal them. -/
theorem displayed_of_units {x : Binary64} {n : Int} (equal : x.units = n * unitsPerOne)
    (some : n ≠ 0) (small : n.natAbs < twoPow 53) : x.displayed = Digits.ofInt n := by
  have whole : x.IsWhole n.natAbs := by
    refine ⟨?_, Int.natAbs_pos.mpr some, small⟩
    rw [← natAbs_units, equal, Int.natAbs_mul, Int.natAbs_natCast]
  have sign : x.isNegative = true ↔ n < 0 := by
    have signed : n * unitsPerOne =
        if x.isNegative then -(x.magnitude : Int) else x.magnitude := equal.symm
    cases negative : x.isNegative with
    | true =>
        have below : n * unitsPerOne ≤ 0 * unitsPerOne := by
          rw [signed, negative, if_pos rfl, Int.zero_mul]
          exact Int.neg_nonpos_of_nonneg (Int.natCast_nonneg _)
        have nonpos := Int.le_of_mul_le_mul_right below unitsPerOne_pos
        exact iff_of_true rfl (by omega)
    | false =>
        have above : 0 * unitsPerOne ≤ n * unitsPerOne := by
          rw [signed, negative, if_neg Bool.false_ne_true, Int.zero_mul]
          exact Int.natCast_nonneg _
        exact iff_of_false Bool.false_ne_true
          (Int.not_lt.mpr (Int.le_of_mul_le_mul_right above unitsPerOne_pos))
  rw [whole.displayed, Digits.ofInt]
  simp only [sign]

end Binary64

end LiveTable
