import LiveTable.Number.Rounding
import LiveTable.Proofs.Value.Spelling

/-!
# Whole numbers in floating point

A whole number with at most 53 binary digits, not counting zeros at its end, is a floating
point number, so that rounding leaves it as it is.  The whole part of every floating point
number is such a number.
-/

set_option autoImplicit false

namespace LiveTable

theorem twoPow_add (first second : Nat) :
    twoPow (first + second) = twoPow first * twoPow second :=
  Nat.pow_add 2 first second

theorem twoPow_le {first second : Nat} (ordered : first ≤ second) :
    twoPow first ≤ twoPow second :=
  Nat.pow_le_pow_right Nat.zero_lt_two ordered

theorem twoPow_lt {first second : Nat} (before : first < second) :
    twoPow first < twoPow second :=
  Nat.pow_lt_pow_right Nat.one_lt_two before

/-- The position of the highest binary digit, by powers of two. -/
theorem le_log2_iff {n exponent : Nat} (some : n ≠ 0) :
    exponent ≤ n.log2 ↔ twoPow exponent ≤ n :=
  Nat.le_log2 some

theorem log2_lt_iff {n exponent : Nat} (some : n ≠ 0) :
    n.log2 < exponent ↔ n < twoPow exponent :=
  Nat.log2_lt some

/-- A number has at most 53 binary digits, not counting zeros at its end. -/
def IsShort (n : Nat) : Prop :=
  ∃ leading zeros : Nat, leading < twoPow 53 ∧ n = leading * twoPow zeros

theorem isShort_of_lt {n : Nat} (small : n < twoPow 53) : IsShort n :=
  ⟨n, 0, small, (Nat.mul_one n).symm⟩

/-- Digits that are cut off make no number longer. -/
theorem isShort_div {leading : Nat} (small : leading < twoPow 53) (zeros cut : Nat) :
    IsShort (leading * twoPow zeros / twoPow cut) := by
  rcases Nat.le_total cut zeros with within | beyond
  · refine ⟨leading, zeros - cut, small, ?_⟩
    have parts : twoPow zeros = twoPow (zeros - cut) * twoPow cut := by
      rw [← twoPow_add, Nat.sub_add_cancel within]
    rw [parts, ← Nat.mul_assoc, Nat.mul_div_cancel _ (twoPow_pos cut)]
  · have parts : twoPow cut = twoPow zeros * twoPow (cut - zeros) := by
      rw [← twoPow_add, Nat.add_sub_cancel' beyond]
    rw [parts, Nat.mul_comm leading, Nat.mul_div_mul_left _ _ (twoPow_pos zeros)]
    exact isShort_of_lt (Nat.lt_of_le_of_lt (Nat.div_le_self _ _) small)

namespace Binary64

/-! ## Putting bits together -/

/-- A significand and its shift, of which the bits of a finite number can be made. -/
structure Fits (significand shift : Nat) : Prop where
  small : significand < twoPow 53
  /-- The leading digit is a one, unless the number is among the least. -/
  leading : twoPow 52 ≤ significand ∨ shift = 0
  bounded : shift ≤ 2045

/-- The number that is made of a sign, a significand and a shift. -/
def pack (negative : Bool) (significand shift : Nat) : Binary64 :=
  ofSignBits negative (shift * twoPow 52 + significand)

variable {negative : Bool} {significand shift : Nat}

theorem sizes : twoPow 11 = 2048 ∧ twoPow 52 = 4503599627370496 ∧
    twoPow 53 = 9007199254740992 ∧ twoPow 63 = 9223372036854775808 :=
  ⟨rfl, rfl, rfl, rfl⟩

theorem toNat_pack (fits : Fits significand shift) :
    (pack negative significand shift).bits.toNat =
      (if negative then twoPow 63 else 0) + (shift * twoPow 52 + significand) := by
  have small := fits.small
  have bounded := fits.bounded
  simp only [pack, ofSignBits, UInt64.toNat_ofNat']
  simp only [sizes] at small ⊢
  rw [Nat.mod_eq_of_lt]
  · split <;> simp
  · split <;> omega

theorem isNegative_pack (fits : Fits significand shift) :
    (pack negative significand shift).isNegative = negative := by
  have small := fits.small
  have bounded := fits.bounded
  simp only [isNegative, toNat_pack fits]
  simp only [sizes] at small ⊢
  cases negative with
  | false =>
      simp
      omega
  | true => simp

theorem exponentBits_pack (fits : Fits significand shift) :
    (pack negative significand shift).exponentBits =
      if significand < twoPow 52 then 0 else shift + 1 := by
  have small := fits.small
  have leading := fits.leading
  have bounded := fits.bounded
  simp only [exponentBits, toNat_pack fits]
  simp only [sizes] at small leading ⊢
  cases negative <;> simp <;> split <;> omega

theorem fractionBits_pack (fits : Fits significand shift) :
    (pack negative significand shift).fractionBits =
      if significand < twoPow 52 then significand else significand - twoPow 52 := by
  have small := fits.small
  have leading := fits.leading
  have bounded := fits.bounded
  simp only [fractionBits, toNat_pack fits]
  simp only [sizes] at small leading ⊢
  cases negative <;> simp <;> split <;> omega

/-- The bits say what they were made of. -/
theorem magnitude_pack (fits : Fits significand shift) :
    (pack negative significand shift).magnitude = significand * twoPow shift := by
  rw [magnitude, Binary64.significand, Binary64.shift, exponentBits_pack fits,
    fractionBits_pack fits]
  by_cases least : significand < twoPow 52
  · have unshifted : shift = 0 := fits.leading.resolve_left (Nat.not_le.mpr least)
    simp only [if_pos least, unshifted]
    rfl
  · simp only [if_neg least, Nat.add_sub_cancel, Nat.succ_ne_zero, if_false]
    rw [Nat.add_sub_cancel' (Nat.not_lt.mp least)]

theorem isFinite_pack (fits : Fits significand shift) :
    (pack negative significand shift).isFinite = true := by
  have bounded := fits.bounded
  rw [isFinite, exponentBits_pack fits]
  split
  · simp
  · simp
    omega

/-! ## Rounding -/

theorem divide_of_dvd (tie : TieRule) {numerator denominator : Nat} (positive : 0 < denominator)
    (divides : denominator ∣ numerator) :
    tie.divide numerator denominator = numerator / denominator := by
  simp [TieRule.divide, Nat.mod_eq_zero_of_dvd divides, positive]

/-- A number of units that is short, and not too large, is put into the bits as it is. -/
theorem nearestBits_of_isShort {n : Nat} (short : IsShort (n * unitsPerOne)) (some : n ≠ 0)
    (bounded : n * unitsPerOne < twoPow 2098) :
    ∃ significand shift, Fits significand shift ∧ significand * twoPow shift = n * unitsPerOne ∧
      nearestBits n 1 = shift * twoPow 52 + significand := by
  have unitsSome : n * unitsPerOne ≠ 0 :=
    Nat.mul_ne_zero some (Nat.ne_of_gt (twoPow_pos 1074))
  -- The highest digit is far above the 53 that are kept, since one is 2^1074 units.
  have high : 1074 ≤ (n * unitsPerOne).log2 := by
    rw [le_log2_iff unitsSome, unitsPerOne]
    exact Nat.le_mul_of_pos_left (twoPow 1074) (Nat.pos_of_ne_zero some)
  have low : (n * unitsPerOne).log2 < 2098 := (log2_lt_iff unitsSome).mpr bounded
  let shift := (n * unitsPerOne).log2 - 52
  have divides : twoPow shift ∣ n * unitsPerOne := by
    rcases short with ⟨leading, zeros, small, parts⟩
    have reached : (n * unitsPerOne).log2 < 53 + zeros := by
      rw [log2_lt_iff unitsSome, parts]
      calc
        leading * twoPow zeros < twoPow 53 * twoPow zeros :=
          Nat.mul_lt_mul_of_pos_right small (twoPow_pos zeros)
        _ = twoPow (53 + zeros) := (twoPow_add 53 zeros).symm
    have within : shift ≤ zeros := by omega
    rw [parts, ← Nat.sub_add_cancel within, twoPow_add, ← Nat.mul_assoc]
    exact Nat.dvd_mul_left _ _
  have whole : n * unitsPerOne / twoPow shift * twoPow shift = n * unitsPerOne :=
    Nat.div_mul_cancel divides
  have fits : Fits (n * unitsPerOne / twoPow shift) shift := by
    refine ⟨?_, .inl ?_, by omega⟩
    · rw [Nat.div_lt_iff_lt_mul (twoPow_pos shift), ← twoPow_add, ← log2_lt_iff unitsSome]
      omega
    · rw [Nat.le_div_iff_mul_le (twoPow_pos shift), ← twoPow_add, ← le_log2_iff unitsSome]
      omega
  refine ⟨_, shift, fits, whole, ?_⟩
  have rounded : nearestBits n 1 =
      min infinityBits (shift * twoPow 52 + n * unitsPerOne / twoPow shift) := by
    simp only [nearestBits, shiftFor, Nat.div_one, Nat.one_mul]
    rw [divide_of_dvd .toEven (twoPow_pos shift) divides]
  have finite : shift * twoPow 52 + n * unitsPerOne / twoPow shift ≤ infinityBits := by
    have small := fits.small
    have shiftBounded := fits.bounded
    simp only [sizes] at small ⊢
    simp only [infinityBits]
    omega
  rw [rounded, Nat.min_eq_right finite]

/-- Numbers of 64 bits, with their sign, are far below infinity. -/
theorem units_bounded {n : Nat} (bounded : n ≤ twoPow 63) : n * unitsPerOne < twoPow 2098 := by
  rw [unitsPerOne]
  calc
    n * twoPow 1074 ≤ twoPow 63 * twoPow 1074 := Nat.mul_le_mul_right _ bounded
    _ = twoPow (63 + 1074) := (twoPow_add 63 1074).symm
    _ < twoPow 2098 := twoPow_lt (by decide)

theorem isShort_units {n : Nat} (short : IsShort n) : IsShort (n * unitsPerOne) := by
  rcases short with ⟨leading, zeros, small, rfl⟩
  exact ⟨leading, zeros + 1074, small, by rw [twoPow_add, Nat.mul_assoc, unitsPerOne]⟩

/-- A short integer of 64 bits is rounded to itself. -/
theorem ofInt_of_isShort {n : Int} (short : IsShort n.natAbs) (bounded : n.natAbs ≤ twoPow 63) :
    (ofInt n).units = n * unitsPerOne ∧ (ofInt n).isFinite = true := by
  by_cases some : n = 0
  · subst some
    rw [Int.zero_mul]
    exact ⟨by decide +kernel, by decide +kernel⟩
  rcases nearestBits_of_isShort (isShort_units short) (Int.natAbs_ne_zero.mpr some)
    (units_bounded bounded) with ⟨significand, shift, fits, parts, bits⟩
  have packed : ofInt n = pack (n < 0) significand shift := by
    rw [ofInt, ofRatio, bits]
    rfl
  rw [packed]
  refine ⟨?_, isFinite_pack fits⟩
  rw [units, magnitude_pack fits, isNegative_pack fits, parts, Int.natCast_mul]
  rcases Int.lt_or_lt_of_ne some with negative | positive
  · rw [if_pos (by simpa using negative), Int.ofNat_natAbs_of_nonpos (Int.le_of_lt negative),
      Int.neg_mul, Int.neg_neg]
  · rw [if_neg (by simpa using Int.le_of_lt positive), Int.natAbs_of_nonneg (Int.le_of_lt positive)]

/-! ## Whole parts -/

theorem natAbs_units (x : Binary64) : x.units.natAbs = x.magnitude := by
  rw [units]
  split <;> simp

theorem natAbs_truncate (x : Binary64) : x.truncate.natAbs = x.magnitude / unitsPerOne := by
  rw [truncate, Int.natAbs_tdiv, natAbs_units, Int.natAbs_natCast]
  rfl

theorem significand_lt (x : Binary64) : x.significand < twoPow 53 := by
  have fraction := x.fractionBits_lt
  rw [significand]
  simp only [sizes] at fraction ⊢
  split <;> omega

/-- The whole part of a number has no more digits than its significand. -/
theorem isShort_truncate (x : Binary64) : IsShort x.truncate.natAbs := by
  rw [natAbs_truncate, magnitude, unitsPerOne]
  exact isShort_div x.significand_lt x.shift 1074

end Binary64

end LiveTable
