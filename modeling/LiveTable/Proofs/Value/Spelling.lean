import LiveTable.Proofs.Value.Equality
import LiveTable.Value.Display
import Mathlib.Data.List.Forall2

/-!
# What equality of values tells

Equal values are one key, so the order does not tell them apart.  Messages do, but only
by the sign of a zero: a number other than zero is known by its units down to its bits,
and every NaN is written alike.  So equal values without zeros of floating point have
the same text.  Where equal lists have the same text, so have their items, for the signs of
two zeros differ in the first place at which the texts do.
-/

set_option autoImplicit false

namespace LiveTable

namespace Binary64

/-! ## Numbers are known by their units -/

theorem fractionBits_lt (x : Binary64) : x.fractionBits < twoPow 52 :=
  Nat.mod_lt _ (twoPow_pos 52)

/-- A magnitude lies below the power of two that its exponent says. -/
theorem magnitude_lt (x : Binary64) : x.magnitude < twoPow (52 + x.exponentBits) := by
  have fraction := x.fractionBits_lt
  rw [magnitude, significand, shift]
  split
  · next least =>
      rw [least]
      simpa [twoPow] using fraction
  · next normal =>
      have raised : twoPow (52 + x.exponentBits) =
          (twoPow 52 + twoPow 52) * twoPow (x.exponentBits - 1) := by
        rw [show 52 + x.exponentBits = 53 + (x.exponentBits - 1) by omega]
        exact Nat.pow_add 2 53 _
      rw [raised]
      exact Nat.mul_lt_mul_of_pos_right (Nat.add_lt_add_left fraction _) (twoPow_pos _)

/-- A magnitude with a leading one does not lie below half that power. -/
theorem le_magnitude {x : Binary64} (normal : x.exponentBits ≠ 0) :
    twoPow (51 + x.exponentBits) ≤ x.magnitude := by
  have raised : twoPow (51 + x.exponentBits) = twoPow 52 * twoPow (x.exponentBits - 1) := by
    rw [show 51 + x.exponentBits = 52 + (x.exponentBits - 1) by omega]
    exact Nat.pow_add 2 52 _
  rw [magnitude, significand, if_neg normal, shift, raised]
  exact Nat.mul_le_mul_right _ (Nat.le_add_right _ _)

theorem exponentBits_le {x y : Binary64} (same : x.magnitude = y.magnitude) :
    x.exponentBits ≤ y.exponentBits := by
  apply Nat.le_of_not_lt
  intro above
  have apart : twoPow (52 + y.exponentBits) ≤ twoPow (51 + x.exponentBits) :=
    Nat.pow_le_pow_right Nat.zero_lt_two (by omega)
  have upper := y.magnitude_lt
  have lower := le_magnitude (Nat.ne_zero_of_lt above)
  omega

theorem eq_of_magnitude {x y : Binary64} (sign : x.isNegative = y.isNegative)
    (same : x.magnitude = y.magnitude) : x = y := by
  have exponents : x.exponentBits = y.exponentBits :=
    Nat.le_antisymm (exponentBits_le same) (exponentBits_le same.symm)
  have fractions : x.fractionBits = y.fractionBits := by
    have shifts : x.shift = y.shift := by rw [shift, shift, exponents]
    rw [magnitude, magnitude, shifts] at same
    have significands := Nat.eq_of_mul_eq_mul_right (twoPow_pos y.shift) same
    simp only [significand, exponents] at significands
    split at significands <;> omega
  have bits : x.bits.toNat = y.bits.toNat := by
    have first := x.bits.toNat_lt
    have second := y.bits.toNat_lt
    have sizes : twoPow 52 = 4503599627370496 ∧ twoPow 11 = 2048 ∧
        twoPow 63 = 9223372036854775808 := ⟨rfl, rfl, rfl⟩
    simp only [isNegative, exponentBits, fractionBits, sizes, decide_eq_decide]
      at sign exponents fractions
    omega
  rcases x with ⟨x⟩
  rcases y with ⟨y⟩
  exact congrArg Binary64.mk (UInt64.toNat_inj.mp bits)

/-- Two numbers of the same units are the same, unless they are zeros. -/
theorem eq_of_units {x y : Binary64} (same : x.units = y.units) (nonzero : x.isZero = false) :
    x = y := by
  simp only [isZero, decide_eq_false_iff_not] at nonzero
  simp only [units] at same
  apply eq_of_magnitude
  · cases first : x.isNegative <;> cases second : y.isNegative <;>
      simp [first, second] at same ⊢ <;> omega
  · split at same <;> split at same <;> omega

/-- Equal numbers are written alike, unless they are zeros. -/
theorem displayed_of_same {x y : Binary64} (same : x.same y) (nonzero : x.isZero = false) :
    x.displayed = y.displayed := by
  simp only [Binary64.same, order] at same
  cases first : x.isNaN <;> cases second : y.isNaN <;> simp only [first, second] at same
  · rw [eq_of_units (Std.compare_eq_iff_eq.mp (of_decide_eq_true same)) nonzero]
  · contradiction
  · contradiction
  · simp [displayed, orSpecial, first, second]

theorem same_symm {x y : Binary64} (same : x.same y) : y.same x := by
  have swapped : y.order x = (x.order y).swap := Value.order_swap (.float y) (.float x)
  simp only [Binary64.same, decide_eq_true_eq] at same ⊢
  rw [swapped, same]
  rfl

theorem displayed_of_isZero {x : Binary64} (zero : x.isZero) : x.displayed = x.withSign ['0'] := by
  have least : x.exponentBits = 0 := by
    by_contra normal
    have above := le_magnitude normal
    have positive := twoPow_pos (51 + x.exponentBits)
    simp only [isZero, decide_eq_true_eq] at zero
    omega
  simp [displayed, orSpecial, isNaN, isInfinite, least, zero]

end Binary64

/-! ## Texts that go on alike -/

/-- Two texts are one as soon as they can be continued to one text. -/
def Text.Delimited (first second : List Char) : Prop :=
  ∀ more others, first ++ more = second ++ others → first = second

theorem Text.Delimited.of_eq {first second : List Char} (same : first = second) :
    Delimited first second :=
  fun _ _ _ => same

/-- Zeros of either sign are told apart by their first character. -/
theorem Binary64.delimited_of_same {x y : Binary64} (same : x.same y) :
    Text.Delimited x.displayed y.displayed := by
  cases zero : x.isZero with
  | false => exact .of_eq (displayed_of_same same zero)
  | true =>
      cases zeroToo : y.isZero with
      | false => exact .of_eq (displayed_of_same (same_symm same) zeroToo).symm
      | true =>
          rw [displayed_of_isZero zero, displayed_of_isZero zeroToo, withSign, withSign]
          intro more others
          split <;> split <;> simp

namespace Value

/-- Where lists of texts are separated, the first texts to differ tell them apart. -/
theorem eq_of_separated {texts others : List (List Char)}
    (each : List.Forall₂ Text.Delimited texts others) {more rest : List Char}
    (same : separated texts ++ more = separated others ++ rest) : texts = others := by
  induction each with
  | nil => rfl
  | @cons text other later laterOthers delimited each ih =>
      cases each with
      | nil => rw [delimited more rest same]
      | cons _ _ =>
          simp only [separated, List.append_assoc] at same
          obtain rfl := delimited _ _ same
          rw [ih (List.cons.inj (List.append_cancel_left same)).2]

/-! ## Equal values are one key -/

theorem holdsOfSame_order :
    HoldsOfSame (fun a b => a.order b = .eq) (fun a b => orderItems a b = .eq)
      (fun a b => orderFields a b = .eq) where
  null := by simp [order, rank]
  boolean flag := by simp [order]
  integer number := by simp [order]
  float equal := by simpa [order, Binary64.same] using equal
  string text := by simp [order]
  array alike := by rw [order, alike]
  object alike := by rw [order, alike]
  noItems := by rw [orderItems]
  item first more := by
    rw [orderItems, first, more]
    rfl
  noFields := by rw [orderFields]
  field first more := by simp [orderFields, first, more]

theorem order_of_same (a b : Value) (equal : a.same b) : a.order b = .eq :=
  holdsOfSame_order.values a b equal

/-- The order tells every value from two equal ones in the same way. -/
theorem order_congr {a b : Value} (equal : a.same b) (value : Value) :
    value.order a = value.order b := by
  have one : compare a b = .eq := order_of_same a b equal
  show compare value a = compare value b
  exact Std.TransCmp.congr_right one

/-! ## Texts of values -/

mutual

/-- Whether no zero of floating point occurs in a value. -/
def zeroless : Value → Bool
  | .float number => !number.isZero
  | .array items => zerolessItems items
  | .object fields => zerolessFields fields
  | _ => true

def zerolessItems : List Value → Bool
  | [] => true
  | item :: rest => zeroless item && zerolessItems rest

def zerolessFields : List (String × Value) → Bool
  | [] => true
  | (_, value) :: rest => zeroless value && zerolessFields rest

end

theorem holdsOfSame_display :
    HoldsOfSame (fun a b => a.zeroless → a.display = b.display)
      (fun a b => zerolessItems a → displayItems a = displayItems b)
      (fun a b => zerolessFields a → displayFields a = displayFields b) where
  null := fun _ => rfl
  boolean _ := fun _ => rfl
  integer _ := fun _ => rfl
  float equal := by
    intro plain
    rw [display, display]
    exact Binary64.displayed_of_same equal (by simpa [zeroless] using plain)
  string _ := fun _ => rfl
  array alike := by
    intro plain
    rw [display, display, alike (by simpa [zeroless] using plain)]
  object alike := by
    intro plain
    rw [display, display, alike (by simpa [zeroless] using plain)]
  noItems := fun _ => rfl
  item first more := by
    intro plain
    simp only [zerolessItems, Bool.and_eq_true] at plain
    rw [displayItems, displayItems, first plain.1, more plain.2]
  noFields := fun _ => rfl
  field first more := by
    intro plain
    simp only [zerolessFields, Bool.and_eq_true] at plain
    rw [displayFields, displayFields, first plain.1, more plain.2]

/-- Equal values without zeros have the same text. -/
theorem toText_of_same {a b : Value} (equal : a.same b) (plain : a.zeroless) :
    a.toText = b.toText :=
  congrArg String.ofList (holdsOfSame_display.values a b equal plain)

theorem holdsOfSame_delimited :
    HoldsOfSame (fun a b => Text.Delimited a.display b.display)
      (fun a b => List.Forall₂ Text.Delimited (displayItems a) (displayItems b))
      (fun a b => List.Forall₂ Text.Delimited (displayFields a) (displayFields b)) where
  null := .of_eq rfl
  boolean _ := .of_eq rfl
  integer _ := .of_eq rfl
  float equal := by
    rw [display, display]
    exact Binary64.delimited_of_same equal
  string _ := .of_eq rfl
  array alike := by
    intro more others same
    simp only [display, List.cons_append, List.append_assoc, List.cons.injEq, true_and] at same ⊢
    rw [eq_of_separated alike same]
  object alike := by
    intro more others same
    simp only [display, List.cons_append, List.append_assoc, List.cons.injEq, true_and] at same ⊢
    rw [eq_of_separated alike same]
  noItems := .nil
  item first more := .cons first more
  noFields := .nil
  field {name _ _ _ _} first more := by
    refine .cons ?_ more
    intro later others same
    simp only [List.append_assoc, List.append_cancel_left_eq, List.cons_append, List.cons.injEq,
      true_and] at same
    rw [first later others same]

/-- Equal lists that have the same text have items that have the same texts. -/
theorem map_toText_of_same {items others : List Value} (equal : sameItems items others)
    (shown : (Value.array items).toText = (Value.array others).toText) :
    items.map toText = others.map toText := by
  have closed :
      separated (displayItems items) ++ [']'] = separated (displayItems others) ++ [']'] := by
    have listed := congrArg String.toList shown
    simpa only [toText, String.toList_ofList, display, List.cons.injEq, true_and] using listed
  have written : displayItems items = displayItems others :=
    eq_of_separated (holdsOfSame_delimited.items items others equal) closed
  have texts (values : List Value) :
      values.map toText = (displayItems values).map String.ofList := by
    induction values with
    | nil => rfl
    | cons value rest ih => rw [List.map_cons, displayItems, List.map_cons, ih, toText]
  rw [texts, texts, written]

end Value

end LiveTable
