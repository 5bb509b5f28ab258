import LiveTable.Proofs.Json.Tokens
import LiveTable.Query.Operand

/-!
# Texts that look like numbers

The text of an operand is taken for a number if, without the blanks at its ends, it is empty, an
integer with the lead of a base, an integer in decimal, or a decimal with a point or an
exponent.  No such text has a comma in it, and the decimal text of an integer of 64 bits is
taken for just that integer, whatever blanks stand around it.
-/

set_option autoImplicit false

namespace LiveTable

namespace Text

/-- The visible characters of ASCII are not blank. -/
theorem isBlank_of_visible {c : Char} (above : 33 ≤ c.toNat) (below : c.toNat ≤ 126) :
    isBlank c = false := by
  refine Bool.eq_false_iff.mpr fun blank => ?_
  rw [isBlank, inRanges] at blank
  rcases List.any_eq_true.mp blank with ⟨range, member, within⟩
  simp only [Bool.and_eq_true, decide_eq_true_eq] at within
  have outside : ∀ range ∈ blankRanges, range.2 < 33 ∨ 126 < range.1 := by decide
  have apart := outside range member
  omega

/-- A character that is not blank stays when a text is trimmed. -/
theorem mem_trim {c : Char} {text : List Char} (member : c ∈ text) (solid : isBlank c = false) :
    c ∈ trim text := by
  have kept {text : List Char} (member : c ∈ text) : c ∈ text.dropWhile isBlank := by
    rw [← List.takeWhile_append_dropWhile (p := isBlank) (l := text)] at member
    refine (List.mem_append.mp member).resolve_left fun dropped => ?_
    have blank := List.mem_takeWhile_imp dropped
    rw [solid] at blank
    contradiction
  rw [trim, trimEnd, List.mem_reverse]
  exact kept (List.mem_reverse.mpr (kept member))

/-- Trimming takes off the blanks around a text that has none. -/
theorem trim_padded {front text back : List Char} (blankFront : ∀ c ∈ front, isBlank c)
    (blankBack : ∀ c ∈ back, isBlank c) (solid : ∀ c ∈ text, isBlank c = false)
    (some : text ≠ []) : trim (front ++ text ++ back) = text := by
  have dropped {blanks solids : List Char} (rest : List Char) (blank : ∀ c ∈ blanks, isBlank c)
      (solid : ∀ c ∈ solids, isBlank c = false) (some : solids ≠ []) :
      (blanks ++ (solids ++ rest)).dropWhile isBlank = solids ++ rest := by
    rw [List.dropWhile_append_of_pos blank]
    cases solids with
    | nil => exact absurd rfl some
    | cons first others =>
        rw [List.cons_append, List.dropWhile_cons_of_neg]
        rw [solid first List.mem_cons_self]
        exact Bool.false_ne_true
  have solidReverse : ∀ c ∈ text.reverse, isBlank c = false := fun c member =>
    solid c (List.mem_reverse.mp member)
  have blankReverse : ∀ c ∈ back.reverse, isBlank c := fun c member =>
    blankBack c (List.mem_reverse.mp member)
  have ended := dropped [] blankReverse solidReverse (List.reverse_ne_nil_iff.mpr some)
  rw [List.append_nil] at ended
  rw [trim, trimStart, List.append_assoc, dropped back blankFront solid some, trimEnd,
    List.reverse_append, ended, List.reverse_reverse]

theorem splitAt_eq_splitOn (separator : Char) (text : List Char) :
    splitAt separator text = text.splitOn separator := by
  induction text with
  | nil => rfl
  | cons c rest ih =>
      rw [splitAt, ih, List.splitOn, List.splitOn, List.splitOnP_cons_eq_if_modifyHead]
      simp only [beq_iff_eq]
      split
      · rfl
      · cases pieces : rest.splitOnP (· == separator) with
        | nil => exact absurd pieces (List.splitOnP_ne_nil _ _)
        | cons first others => rfl

/-- A text that is joined from pieces without the separator is split into these. -/
theorem splitAt_intercalate {separator : Char} {pieces : List (List Char)}
    (apart : ∀ piece ∈ pieces, separator ∉ piece) (some : pieces ≠ []) :
    splitAt separator ([separator].intercalate pieces) = pieces := by
  rw [splitAt_eq_splitOn, List.splitOn_intercalate separator apart some]

end Text

/-! ## Digits -/

namespace Digits

theorem valueIn?_of_isDigit {c : Char} (digit : NumberText.isDigit c) :
    valueIn? 10 c = some (c.toNat - '0'.toNat) := by
  have bounds : '0' ≤ c ∧ c ≤ '9' := by simpa [NumberText.isDigit] using digit
  have below : c.toNat ≤ '9'.toNat := bounds.2
  have small : c.toNat - '0'.toNat < 10 := by
    have values : '9'.toNat = 57 ∧ '0'.toNat = 48 := ⟨rfl, rfl⟩
    omega
  simp only [valueIn?, if_pos bounds, Option.filter_some, decide_eq_true_eq, if_pos small]

/-- Decimal digits denote their value. -/
theorem readIn?_of_digits {text : List Char} (digits : ∀ c ∈ text, NumberText.isDigit c) :
    readIn? 10 text = some (toNat text) := by
  have onwards (total : Nat) :
      text.foldlM (fun total c => (valueIn? 10 c).map (total * 10 + ·)) total =
        some (text.foldl (fun total c => total * 10 + (c.toNat - '0'.toNat)) total) := by
    induction text generalizing total with
    | nil => rfl
    | cons c rest ih =>
        rcases List.forall_mem_cons.mp digits with ⟨digit, digits⟩
        rw [List.foldlM_cons, valueIn?_of_isDigit digit]
        exact ih digits _
  exact onwards 0

/-- A text with a character that is no digit of the base denotes nothing in that base. -/
theorem readIn?_eq_none {base : Nat} {c : Char} {text : List Char} (member : c ∈ text)
    (foreign : valueIn? base c = none) : readIn? base text = none := by
  have onwards (total : Nat) :
      text.foldlM (fun total c => (valueIn? base c).map (total * base + ·)) total = none := by
    induction text generalizing total with
    | nil => contradiction
    | cons first rest ih =>
        rw [List.foldlM_cons]
        rcases List.mem_cons.mp member with rfl | later
        · rw [foreign]
          rfl
        · cases valueIn? base first with
          | none => rfl
          | some value => exact ih later _
  exact onwards 0

end Digits

/-! ## Integers in decimal -/

namespace NumberText

theorem splitSign_of_digits {text : List Char} (digits : ∀ c ∈ text, isDigit c) :
    splitSign text = (false, text) := by
  unfold splitSign
  split
  · exact absurd (digits '-' List.mem_cons_self) (by decide)
  · exact absurd (digits '+' List.mem_cons_self) (by decide)
  · rfl

/-- The decimal text of an integer of 64 bits denotes that integer. -/
theorem readInt?_ofInt (number : Int64) : readInt? (Digits.ofInt number.toInt) = some number := by
  have digits : ∀ c ∈ Digits.ofNat number.toInt.natAbs, isDigit c := fun _ =>
    Digits.isDigit_of_mem_ofNat
  have some : (Digits.ofNat number.toInt.natAbs).isEmpty = false := by
    rcases Digits.ofNat_leads number.toInt.natAbs with ⟨first, rest, written, _⟩
    rw [written]
    rfl
  have within : toInt64? number.toInt = Option.some number := by
    have above : -(twoPow 63 : Int) ≤ number.toInt := number.le_toInt
    have below : number.toInt < twoPow 63 := number.toInt_lt
    rw [toInt64?, if_pos ⟨above, below⟩, Int64.ofInt_toInt]
  rw [Digits.ofInt]
  split
  · next negative =>
      have signed : -(number.toInt.natAbs : Int) = number.toInt := by omega
      rw [readInt?, readIntIn?]
      simp only [splitSign, some, Digits.readIn?_of_digits digits, Digits.toNat_ofNat]
      rw [if_neg Bool.false_ne_true, Option.bind_some, if_pos trivial, signed, within]
  · next positive =>
      have unsigned : (number.toInt.natAbs : Int) = number.toInt := by omega
      rw [readInt?, readIntIn?, splitSign_of_digits digits]
      simp only [some, Digits.readIn?_of_digits digits, Digits.toNat_ofNat]
      rw [if_neg Bool.false_ne_true, Option.bind_some, if_neg Bool.false_ne_true, unsigned, within]

/-! ## Texts with a foreign character -/

section Foreign

variable {c : Char} {text : List Char}

theorem mem_splitSign (member : c ∈ text) (noSign : c ≠ '-' ∧ c ≠ '+') :
    c ∈ (splitSign text).2 := by
  unfold splitSign
  split
  · exact (List.mem_cons.mp member).resolve_left noSign.1
  · exact (List.mem_cons.mp member).resolve_left noSign.2
  · exact member

theorem mem_splitDigits (member : c ∈ text) (noDigit : isDigit c = false) :
    c ∈ (splitDigits text).2 := by
  rw [← List.takeWhile_append_dropWhile (p := isDigit) (l := text)] at member
  refine (List.mem_append.mp member).resolve_left fun taken => ?_
  have digit := List.mem_takeWhile_imp taken
  rw [noDigit] at digit
  contradiction

theorem mem_splitFraction (member : c ∈ text) (noDigit : isDigit c = false) (noPoint : c ≠ '.') :
    c ∈ (splitFraction text).2 := by
  unfold splitFraction
  split
  · exact mem_splitDigits ((List.mem_cons.mp member).resolve_left noPoint) noDigit
  · exact member

theorem readIntIn?_eq_none {base : Nat} (member : c ∈ text) (noSign : c ≠ '-' ∧ c ≠ '+')
    (foreign : Digits.valueIn? base c = none) : readIntIn? base text = none := by
  simp only [readIntIn?]
  rw [Digits.readIn?_eq_none (mem_splitSign member noSign) foreign]
  split <;> rfl

theorem readExponent?_eq_none (member : c ∈ text) (noSign : c ≠ '-' ∧ c ≠ '+')
    (noDigit : isDigit c = false) (noLetter : c ≠ 'e' ∧ c ≠ 'E') : readExponent? text = none := by
  cases text with
  | nil => contradiction
  | cons letter rest =>
      rw [readExponent?]
      split
      · next marked =>
          have later : c ∈ rest := by
            refine (List.mem_cons.mp member).resolve_left ?_
            rintro rfl
            exact marked.elim noLetter.1 noLetter.2
          refine if_neg fun digits => ?_
          have digit := List.all_eq_true.mp digits.2 c (mem_splitSign later noSign)
          rw [noDigit] at digit
          contradiction
      · rfl

theorem readFloat?_eq_none (member : c ∈ text) (noSign : c ≠ '-' ∧ c ≠ '+')
    (noDigit : isDigit c = false) (noPoint : c ≠ '.') (noLetter : c ≠ 'e' ∧ c ≠ 'E') :
    readFloat? text = none := by
  have unread := readExponent?_eq_none
    (mem_splitFraction (mem_splitDigits (mem_splitSign member noSign) noDigit) noDigit noPoint)
    noSign noDigit noLetter
  simp only [readFloat?, unread, Option.map_none, ite_self]

end Foreign

end NumberText

namespace Operand

open NumberText

/-- What looks like a number is an integer or a finite floating point number. -/
theorem of_readNumber? {text : List Char} {value : Value} (looks : readNumber? text = some value) :
    (∃ number, value = .integer number) ∨
      ∃ number : Binary64, number.isFinite ∧ value = .float number := by
  simp only [readNumber?] at looks
  split at looks
  · exact .inl ⟨0, (Option.some.inj looks).symm⟩
  · split at looks
    · next number _ => exact .inl ⟨number, (Option.some.inj looks).symm⟩
    · split at looks
      · next number _ => exact .inl ⟨number, (Option.some.inj looks).symm⟩
      · split at looks
        · next number _ =>
            rcases Option.ite_none_right_eq_some.mp looks with ⟨finite, made⟩
            rcases Option.some.inj made with rfl
            simp only [numberValue]
            split
            · exact .inl ⟨_, rfl⟩
            · exact .inr ⟨_, finite, rfl⟩
        · contradiction

/-- The lead of a base is a zero with one of six letters. -/
theorem of_baseOf? {zero letter : Char} {base : Nat} (led : baseOf? zero letter = some base) :
    zero = '0' ∧ letter ∈ ['x', 'X', 'o', 'O', 'b', 'B'] := by
  unfold baseOf? at led
  split at led <;> first | contradiction | exact ⟨rfl, by decide⟩

/-- What is read in a base begins with the lead of the base and goes on with its digits. -/
theorem of_readBased? {text : List Char} {number : Int64} (read : readBased? text = some number) :
    ∃ letter digits base, text = '0' :: letter :: digits ∧
      letter ∈ ['x', 'X', 'o', 'O', 'b', 'B'] ∧ readIntIn? base digits = some number := by
  unfold readBased? at read
  split at read
  · next zero letter digits =>
      split at read
      · next base led =>
          rcases of_baseOf? led with ⟨rfl, lead⟩
          exact ⟨letter, digits, base, rfl, lead, (Option.ite_none_left_eq_some.mp read).2⟩
      · contradiction
  · contradiction

/-- A text with a comma never looks like a number as a whole. -/
theorem readNumber?_of_comma {text : List Char} (comma : ',' ∈ text) : readNumber? text = none := by
  have member : ',' ∈ Text.trim text := Text.mem_trim comma (by decide)
  have some : (Text.trim text).isEmpty = false :=
    List.isEmpty_eq_false_iff.mpr (List.ne_nil_of_mem member)
  have foreign (base : Nat) : Digits.valueIn? base ',' = none := rfl
  have based : readBased? (Text.trim text) = none := by
    refine Option.eq_none_iff_forall_ne_some.mpr fun number read => ?_
    rcases of_readBased? read with ⟨letter, digits, base, same, lead, read⟩
    rw [same] at member
    have later : ',' ∈ digits := by
      refine (List.mem_cons.mp ((List.mem_cons.mp member).resolve_left (by decide))).resolve_left ?_
      rintro rfl
      contradiction
    rw [readIntIn?_eq_none later (by decide) (foreign base)] at read
    contradiction
  have decimal : readInt? (Text.trim text) = none :=
    readIntIn?_eq_none member (by decide) (foreign 10)
  have pointed : readFloat? (Text.trim text) = none :=
    readFloat?_eq_none member (by decide) (by decide) (by decide) (by decide)
  simp only [readNumber?, some, based, decimal, pointed]
  rfl

/-- The characters of an integer in decimal. -/
theorem isDigit_of_mem_ofInt {n : Int} {c : Char} (member : c ∈ Digits.ofInt n) :
    isDigit c ∨ c = '-' := by
  rw [Digits.ofInt] at member
  split at member
  · exact (List.mem_cons.mp member).symm.imp_left Digits.isDigit_of_mem_ofNat
  · exact .inl (Digits.isDigit_of_mem_ofNat member)

theorem isBlank_of_isDigit {c : Char} (digit : isDigit c) : Text.isBlank c = false := by
  have bounds : '0' ≤ c ∧ c ≤ '9' := by simpa [isDigit] using digit
  have above : 48 ≤ c.toNat := bounds.1
  have below : c.toNat ≤ 57 := bounds.2
  exact Text.isBlank_of_visible (by omega) (by omega)

theorem readBased?_eq_none {text : List Char} (digits : ∀ c ∈ text, isDigit c ∨ c = '-') :
    readBased? text = none := by
  refine Option.eq_none_iff_forall_ne_some.mpr fun number read => ?_
  rcases of_readBased? read with ⟨letter, rest, base, rfl, lead, _⟩
  have digit := digits letter (List.mem_cons_of_mem _ List.mem_cons_self)
  simp only [List.mem_cons, List.not_mem_nil, or_false] at lead
  rcases lead with rfl | rfl | rfl | rfl | rfl | rfl <;> exact absurd digit (by decide)

/-- The decimal text of an integer of 64 bits looks like that integer, between any blanks. -/
theorem readNumber?_padded (number : Int64) {front back : List Char}
    (blankFront : ∀ c ∈ front, Text.isBlank c) (blankBack : ∀ c ∈ back, Text.isBlank c) :
    readNumber? (front ++ Digits.ofInt number.toInt ++ back) = some (.integer number) := by
  have some : Digits.ofInt number.toInt ≠ [] := by
    rcases Digits.ofNat_leads number.toInt.natAbs with ⟨first, rest, written, _⟩
    rw [Digits.ofInt, written]
    split <;> exact List.cons_ne_nil _ _
  have solid : ∀ c ∈ Digits.ofInt number.toInt, Text.isBlank c = false := by
    intro c member
    rcases isDigit_of_mem_ofInt member with digit | rfl
    · exact isBlank_of_isDigit digit
    · rfl
  have based := readBased?_eq_none fun c => @isDigit_of_mem_ofInt number.toInt c
  simp only [readNumber?, Text.trim_padded blankFront blankBack solid some, based,
    readInt?_ofInt, List.isEmpty_eq_false_iff.mpr some]
  rfl

end Operand

end LiveTable
