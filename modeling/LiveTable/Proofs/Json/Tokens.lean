import Mathlib.Data.List.TakeWhile
import LiveTable.Json.Printer
import LiveTable.Json.Scalar

/-!
# Tokens of written texts

A number or a word has no closing mark, so a text written for an item is read as one
only where the text ends or a comma or a closing mark follows.  `Spells` says that a
text gives its tokens in front of every such rest; it holds of words, of everything
that is a numeral and of texts, whatever characters they hold.
-/

set_option autoImplicit false

namespace LiveTable

/-! ## Digits -/

namespace Digits

theorem isDigit_of_mem_ofNat {n : Nat} {c : Char} (member : c ∈ ofNat n) :
    NumberText.isDigit c := by
  have digit := Nat.isDigit_of_mem_toDigits (by decide) (by decide) member
  simpa [NumberText.isDigit, Char.isDigit, Char.le_def] using digit

theorem toNat_ofNat (n : Nat) : toNat (ofNat n) = n := by
  have folded : toNat (ofNat n) = Nat.ofDigitChars 10 (ofNat n) 0 := by
    simp only [toNat, Nat.ofDigitChars, Nat.mul_comm]
  rw [folded]
  exact Nat.ofDigitChars_toDigits (by decide) (by decide)

/-- Zero is written with one digit and no other number begins with a zero. -/
theorem ofNat_leads (n : Nat) :
    ∃ first rest, ofNat n = first :: rest ∧ (first = '0' → rest = []) := by
  induction n using Nat.strongRecOn with
  | _ n ih =>
      rw [ofNat]
      by_cases small : n < 10
      · exact ⟨_, _, Nat.toDigits_of_lt_base small, fun _ => rfl⟩
      · rcases ih (n / 10) (by omega) with ⟨first, rest, written, leads⟩
        rw [Nat.toDigits_of_base_le (by decide) (by omega)]
        rw [ofNat] at written
        refine ⟨first, rest ++ [(n % 10).digitChar], by rw [written]; rfl, fun zero => ?_⟩
        -- The digits in front would be a lone zero, but what they denote is positive.
        have denoted := toNat_ofNat (n / 10)
        rw [ofNat, written, leads zero, zero] at denoted
        have : n / 10 = 0 := denoted.symm
        omega

end Digits

namespace Json

open NumberText

/-! ## Numerals -/

theorem continuesNumber_of_isDigit {c : Char} (digit : isDigit c) : continuesNumber c := by
  simp [continuesNumber, digit]

/-- Whether the digits in front of a point can stand there: no superfluous zero leads them. -/
def fitsWhole : List Char → Bool
  | [] => false
  | ['0'] => true
  | first :: _ => first ≠ '0'

theorem fitsWhole_of_leads {first : Char} {rest : List Char} (leads : first = '0' → rest = []) :
    fitsWhole (first :: rest) := by
  rw [fitsWhole.eq_def]
  split
  · contradiction
  · rfl
  · next other more same =>
      rcases List.cons.inj same with ⟨rfl, rfl⟩
      apply decide_eq_true
      rintro rfl
      exact more rfl (leads rfl)

/-- The number that a text without its sign denotes. -/
def readUnsigned? (negative : Bool) (text : List Char) : Option Numeral :=
  let (whole, afterWhole) := splitDigits text
  let (fraction, afterFraction) := splitFraction afterWhole
  if fitsWhole whole && (afterWhole.head? ≠ some '.' || !fraction.isEmpty) then
    match afterFraction with
    | [] => some ⟨negative, whole, fraction, none⟩
    | _ => (readExponent? afterFraction).map fun power =>
        ⟨negative, whole, fraction, some power⟩
  else none

theorem readNumeral?_negative (text : List Char) :
    readNumeral? ('-' :: text) = readUnsigned? true text :=
  rfl

theorem readNumeral?_unsigned {text : List Char} (unsigned : text.head? ≠ some '-') :
    readNumeral? text = readUnsigned? false text := by
  cases text with
  | nil => rfl
  | cons first rest =>
      have other : first ≠ '-' := fun same => unsigned (congrArg some same)
      unfold readNumeral?
      split
      next negative unsigned' split' =>
      split at split'
      · next again => exact absurd (List.cons.inj again).1 other
      · cases split'
        rfl

/-- Digits without a superfluous zero in front are a numeral. -/
theorem readUnsigned?_digits {first : Char} {rest : List Char}
    (all : ∀ c ∈ first :: rest, isDigit c) (leads : first = '0' → rest = []) (negative : Bool) :
    readUnsigned? negative (first :: rest) = some ⟨negative, first :: rest, [], none⟩ := by
  have digits : (first :: rest).takeWhile isDigit = first :: rest :=
    List.takeWhile_eq_self_iff.mpr all
  have nothing : (first :: rest).dropWhile isDigit = [] :=
    List.dropWhile_eq_nil_iff.mpr all
  simp [readUnsigned?, splitDigits, digits, nothing, splitFraction, fitsWhole_of_leads leads]

/-- The digits of an integer are a numeral, with its sign. -/
theorem readNumeral?_ofInt (n : Int) :
    readNumeral? (Digits.ofInt n) = some ⟨n < 0, Digits.ofNat n.natAbs, [], none⟩ := by
  rcases Digits.ofNat_leads n.natAbs with ⟨first, rest, written, leads⟩
  have all : ∀ c ∈ first :: rest, isDigit c := fun c member =>
    Digits.isDigit_of_mem_ofNat (written ▸ member)
  rw [Digits.ofInt, written]
  split
  · next negative =>
      rw [readNumeral?_negative, readUnsigned?_digits all leads]
      simp [negative]
  · next positive =>
      have unsigned : (first :: rest).head? ≠ some '-' := fun same =>
        absurd (Option.some.inj same ▸ all first List.mem_cons_self) (by decide)
      rw [readNumeral?_unsigned unsigned, readUnsigned?_digits all leads]
      simp [positive]

/-- The numeral of a 64-bit integer is read as that integer. -/
theorem toInteger?_ofInt (number : Int64) :
    (Numeral.mk (number.toInt < 0) (Digits.ofNat number.toInt.natAbs) [] none).toInteger? =
      some number := by
  have above : -(twoPow 63 : Int) ≤ number.toInt := number.le_toInt
  have below : number.toInt < twoPow 63 := number.toInt_lt
  have signed : (if decide (number.toInt < 0) then -(number.toInt.natAbs : Int)
      else number.toInt.natAbs) = number.toInt := by
    split
    · next negative =>
        rw [decide_eq_true_eq] at negative
        omega
    · next positive =>
        rw [decide_eq_true_eq] at positive
        omega
  have zeroless : (decide (number.toInt < 0) && decide (number.toInt.natAbs = 0)) = false := by
    simp only [Bool.and_eq_false_iff, decide_eq_false_iff_not]
    omega
  rw [Numeral.toInteger?]
  simp only [Numeral.isInteger, Digits.toNat_ofNat, zeroless, signed]
  simp [toInt64?, above, below]

/-- All characters of an exponent continue a number. -/
theorem continuesNumber_of_readExponent? {text : List Char} {power : Int}
    (read : readExponent? text = some power) : ∀ c ∈ text, continuesNumber c := by
  cases text with
  | nil => simp
  | cons letter rest =>
      simp only [readExponent?] at read
      split at read
      case isFalse => contradiction
      next marked =>
      split at read
      case isFalse => contradiction
      next digits =>
      have digit : ∀ c ∈ (splitSign rest).2, continuesNumber c := fun c member =>
        continuesNumber_of_isDigit (List.all_eq_true.mp digits.2 c member)
      have signed : ∀ c ∈ rest, continuesNumber c := by
        revert digit
        rw [splitSign.eq_def]
        split <;> simp_all [continuesNumber]
      have marks : continuesNumber letter := by
        rcases marked with rfl | rfl <;> decide
      exact List.forall_mem_cons.mpr ⟨marks, signed⟩

theorem continuesNumber_of_splitDigits {text : List Char}
    (later : ∀ c ∈ (splitDigits text).2, continuesNumber c) : ∀ c ∈ text, continuesNumber c := by
  intro c member
  rw [← List.takeWhile_append_dropWhile (p := isDigit) (l := text)] at member
  rcases List.mem_append.mp member with digit | member
  · exact continuesNumber_of_isDigit (List.mem_takeWhile_imp digit)
  · exact later c member

theorem continuesNumber_of_splitFraction {text : List Char}
    (later : ∀ c ∈ (splitFraction text).2, continuesNumber c) : ∀ c ∈ text, continuesNumber c := by
  revert later
  rw [splitFraction.eq_def]
  split
  · next rest =>
      intro later
      have digits : ∀ c ∈ rest, continuesNumber c := continuesNumber_of_splitDigits later
      exact List.forall_mem_cons.mpr ⟨by decide, digits⟩
  · exact id

/-- A numeral without its sign begins with a digit, and every character continues a number. -/
theorem continuesNumber_of_readUnsigned? {text : List Char} {negative : Bool} {numeral : Numeral}
    (read : readUnsigned? negative text = some numeral) :
    (∃ first rest, text = first :: rest ∧ isDigit first) ∧ ∀ c ∈ text, continuesNumber c := by
  simp only [readUnsigned?] at read
  rcases Option.ite_none_right_eq_some.mp read with ⟨fits, read⟩
  simp only [Bool.and_eq_true] at fits
  constructor
  · cases text with
    | nil => exact absurd fits.1 (by decide)
    | cons first rest =>
        refine ⟨first, rest, rfl, ?_⟩
        cases digit : isDigit first with
        | true => rfl
        | false => simp [splitDigits, digit, fitsWhole] at fits
  · apply continuesNumber_of_splitDigits
    apply continuesNumber_of_splitFraction
    split at read
    · next nothing => simp [nothing]
    · rcases Option.map_eq_some_iff.mp read with ⟨power, readPower, -⟩
      exact continuesNumber_of_readExponent? readPower

/-- A numeral begins with a digit or a minus sign, and every character continues a number. -/
theorem continuesNumber_of_readNumeral? {text : List Char} {numeral : Numeral}
    (read : readNumeral? text = some numeral) :
    ∃ first rest, text = first :: rest ∧ (isDigit first ∨ first = '-') ∧
      ∀ c ∈ rest, continuesNumber c := by
  by_cases signed : text.head? = some '-'
  · cases text with
    | nil => contradiction
    | cons first rest =>
        cases signed
        exact ⟨'-', rest, rfl, .inr rfl, (continuesNumber_of_readUnsigned? read).2⟩
  · rw [readNumeral?_unsigned signed] at read
    rcases continuesNumber_of_readUnsigned? read with ⟨⟨first, rest, rfl, digit⟩, all⟩
    exact ⟨first, rest, rfl, .inl digit, fun c member => all c (List.mem_cons_of_mem _ member)⟩

/-! ## Texts in front of what follows -/

/-- Whether a text ends or goes on with a character that ends an item. -/
def Delimited : List Char → Prop
  | [] => True
  | c :: _ => c = ',' ∨ c = ']' ∨ c = '\x7d'

/-- A text gives tokens, whatever follows the item that it is written for. -/
def Spells (text : List Char) (tokens : List Token) : Prop :=
  ∀ rest, Delimited rest →
    tokensFrom .between (text ++ rest) = (tokensFrom .between rest).map (tokens ++ ·)

/-- A character that takes a mode to another without a token is passed over. -/
theorem tokensFrom_cons {mode next : Mode} {c : Char} {tokens : List Token}
    (step : mode.step c = some (tokens, next)) (rest : List Char) :
    tokensFrom mode (c :: rest) = (tokensFrom next rest).map (tokens ++ ·) := by
  rw [tokensFrom, step]
  cases later : tokensFrom next rest <;> simp [later]

theorem tokensFrom_skip {mode next : Mode} {c : Char} (step : mode.step c = some ([], next))
    (rest : List Char) : tokensFrom mode (c :: rest) = tokensFrom next rest := by
  rw [tokensFrom_cons step]
  simp

/-- A token without a closing mark ends where an item ends. -/
theorem tokensFrom_delimited {mode : Mode} {tokens : List Token}
    (finished : mode.finish? = some tokens)
    (restarts : ∀ c, Delimited [c] → mode.step c = mode.restart c) {rest : List Char}
    (delimited : Delimited rest) :
    tokensFrom mode rest = (tokensFrom .between rest).map (tokens ++ ·) := by
  cases rest with
  | nil =>
      have nothing : tokensFrom .between [] = some [] := rfl
      rw [tokensFrom, finished, nothing, Option.map_some, List.append_nil]
  | cons c rest =>
      have started : ∃ token, Mode.start c = some ([token], .between) := by
        rcases delimited with rfl | rfl | rfl <;> exact ⟨_, rfl⟩
      rcases started with ⟨token, started⟩
      have step : mode.step c = some (tokens ++ [token], .between) := by
        rw [restarts c delimited, Mode.restart, finished, started]
        rfl
      have between : Mode.step .between c = some ([token], .between) := started
      rw [tokensFrom_cons step, tokensFrom_cons between, Option.map_map]
      simp [Function.comp_def]

/-! ## Words and numerals -/

theorem restart_of_word {letters : List Char} {c : Char} (delimited : Delimited [c]) :
    Mode.step (.word letters) c = Mode.restart (.word letters) c := by
  rcases delimited with rfl | rfl | rfl <;> rfl

theorem restart_of_number {characters : List Char} {c : Char} (delimited : Delimited [c]) :
    Mode.step (.number characters) c = Mode.restart (.number characters) c := by
  rcases delimited with rfl | rfl | rfl <;> rfl

/-- Letters are kept until a run of them ends. -/
theorem tokensFrom_word {letters text : List Char} (all : ∀ c ∈ text, isLetter c)
    (rest : List Char) :
    tokensFrom (.word letters) (text ++ rest) =
      tokensFrom (.word (text.reverse ++ letters)) rest := by
  induction text generalizing letters with
  | nil => rfl
  | cons c text ih =>
      have step : Mode.step (.word letters) c = some ([], .word (c :: letters)) :=
        if_pos (all c List.mem_cons_self)
      rw [List.cons_append, tokensFrom_skip step,
        ih fun other member => all other (List.mem_cons_of_mem _ member)]
      simp

/-- A word is a token where it stands in front of the end of an item. -/
theorem spells_word {first : Char} {text : List Char} {token : Token}
    (start : Mode.start first = some ([], .word [first])) (all : text.all isLetter)
    (read : readWord? (first :: text) = some token) : Spells (first :: text) [token] := by
  intro rest delimited
  have start : Mode.step .between first = some ([], .word [first]) := start
  have finished : Mode.finish? (.word (text.reverse ++ [first])) = some [token] := by
    simp [Mode.finish?, read]
  rw [List.cons_append, tokensFrom_skip start, tokensFrom_word (List.all_eq_true.mp all)]
  exact tokensFrom_delimited finished (fun _ => restart_of_word) delimited

theorem spells_null : Spells "null".toList [.null] :=
  spells_word rfl rfl rfl

theorem spells_flag (flag : Bool) : Spells (writtenFlag flag) [.boolean flag] := by
  cases flag with
  | false => exact spells_word rfl rfl rfl
  | true => exact spells_word rfl rfl rfl

/-- Characters that continue a number are kept until it ends. -/
theorem tokensFrom_number {characters text : List Char} (all : ∀ c ∈ text, continuesNumber c)
    (rest : List Char) :
    tokensFrom (.number characters) (text ++ rest) =
      tokensFrom (.number (text.reverse ++ characters)) rest := by
  induction text generalizing characters with
  | nil => rfl
  | cons c text ih =>
      have step : Mode.step (.number characters) c = some ([], .number (c :: characters)) :=
        if_pos (all c List.mem_cons_self)
      rw [List.cons_append, tokensFrom_skip step,
        ih fun other member => all other (List.mem_cons_of_mem _ member)]
      simp

/-- A digit or a minus sign begins a number. -/
theorem start_of_number {c : Char} (first : isDigit c ∨ c = '-') :
    Mode.start c = some ([], .number [c]) := by
  rcases first with digit | rfl
  · rw [Mode.start.eq_def]
    split
    case h_8 =>
      have solid : isSpace c = false := by
        cases space : isSpace c with
        | false => rfl
        | true =>
            simp only [isSpace, Bool.or_eq_true, decide_eq_true_eq] at space
            rcases space with ((rfl | rfl) | rfl) | rfl <;> exact absurd digit (by decide)
      simp [solid, digit]
    all_goals exact absurd digit (by decide)
  · rfl

/-- What can be read as a numeral is a token where it stands in front of the end of an item. -/
theorem spells_numeral {text : List Char} {numeral : Numeral}
    (read : readNumeral? text = some numeral) : Spells text [.number numeral] := by
  intro rest delimited
  rcases continuesNumber_of_readNumeral? read with ⟨first, more, rfl, begins, all⟩
  have start : Mode.step .between first = some ([], .number [first]) := start_of_number begins
  have finished : Mode.finish? (.number (more.reverse ++ [first])) = some [.number numeral] := by
    simp [Mode.finish?, read]
  rw [List.cons_append, tokensFrom_skip start, tokensFrom_number all]
  exact tokensFrom_delimited finished (fun _ => restart_of_number) delimited

/-! ## Texts -/

/-- A character is no half of a surrogate pair. -/
theorem not_surrogate (c : Char) : isLeading c.toNat = false ∧ isTrailing c.toNat = false := by
  have valid : c.toNat < 0xd800 ∨ 0xdfff < c.toNat ∧ c.toNat < 0x110000 := c.valid
  simp only [isLeading, isTrailing, Bool.and_eq_false_iff, decide_eq_false_iff_not]
  omega

theorem charsOf_cons (c : Char) {points : List Nat} {chars : List Char}
    (rest : charsOf points = some chars) : charsOf (c.toNat :: points) = some (c :: chars) := by
  rcases not_surrogate c with ⟨leading, trailing⟩
  cases points with
  | nil =>
      cases rest
      simp [charsOf, leading, trailing]
  | cons next points => simp [charsOf, leading, trailing, rest]

/-- The code points of characters denote the characters. -/
theorem charsOf_toNat (text : List Char) : charsOf (text.map Char.toNat) = some text := by
  induction text with
  | nil => rfl
  | cons c text ih => exact charsOf_cons c ih

/-- The two hexadecimal digits of a control character denote it. -/
theorem readIn?_control : ∀ point < 0x20,
    Digits.readIn? 16 ['0', '0', hexDigit (point / 16), hexDigit (point % 16)] = some point := by
  decide

theorem tokensFrom_escape {points : List Nat} {c : Char} {point : Nat} (other : c ≠ 'u')
    (escape : simpleEscape? c = some point) (rest : List Char) :
    tokensFrom (.text points) ('\\' :: c :: rest) = tokensFrom (.text (point :: points)) rest := by
  have backslash : Mode.step (.text points) '\\' = some ([], .escape points) := rfl
  have letter : Mode.step (.escape points) c = some ([], .text (point :: points)) := by
    simp [Mode.step, other, escape]
  rw [tokensFrom_skip backslash, tokensFrom_skip letter]

theorem tokensFrom_control {points : List Nat} {a b c d : Char} {point : Nat}
    (digits : Digits.readIn? 16 [a, b, c, d] = some point) (rest : List Char) :
    tokensFrom (.text points) ('\\' :: 'u' :: a :: b :: c :: d :: rest) =
      tokensFrom (.text (point :: points)) rest := by
  have backslash : Mode.step (.text points) '\\' = some ([], .escape points) := rfl
  have letter : Mode.step (.escape points) 'u' = some ([], .hexadecimal points []) := rfl
  have first : Mode.step (.hexadecimal points []) a = some ([], .hexadecimal points [a]) := rfl
  have second : Mode.step (.hexadecimal points [a]) b = some ([], .hexadecimal points [b, a]) := rfl
  have third : Mode.step (.hexadecimal points [b, a]) c =
    some ([], .hexadecimal points [c, b, a]) := rfl
  have last : Mode.step (.hexadecimal points [c, b, a]) d = some ([], .text (point :: points)) := by
    simp [Mode.step, digits]
  rw [tokensFrom_skip backslash, tokensFrom_skip letter, tokensFrom_skip first,
    tokensFrom_skip second, tokensFrom_skip third, tokensFrom_skip last]

/-- A character of a text is read back as its code point, whether it is escaped or not. -/
theorem tokensFrom_writtenChar (points : List Nat) (c : Char) (rest : List Char) :
    tokensFrom (.text points) (writtenChar c ++ rest) =
      tokensFrom (.text (c.toNat :: points)) rest := by
  rw [writtenChar.eq_def]
  split
  case h_8 quote backslash _ _ _ _ _ =>
      split
      · next control => exact tokensFrom_control (readIn?_control _ control) rest
      · next visible =>
          have step : Mode.step (.text points) c = some ([], .text (c.toNat :: points)) := by
            rw [Mode.step, if_neg quote, if_neg backslash, if_neg visible]
          exact tokensFrom_skip step rest
  all_goals exact tokensFrom_escape (by decide) (by decide) rest

theorem tokensFrom_writtenChars (points : List Nat) (text rest : List Char) :
    tokensFrom (.text points) (text.flatMap writtenChar ++ rest) =
      tokensFrom (.text ((text.map Char.toNat).reverse ++ points)) rest := by
  induction text generalizing points with
  | nil => rfl
  | cons c text ih =>
      rw [List.flatMap_cons, List.append_assoc, tokensFrom_writtenChar, ih]
      simp

/-- A text between quotes is one token, whatever follows. -/
theorem tokensFrom_writtenString (text : String) (rest : List Char) :
    tokensFrom .between (writtenString text ++ rest) =
      (tokensFrom .between rest).map (.text (some text) :: ·) := by
  have start : Mode.step .between '"' = some ([], .text []) := rfl
  have stop : Mode.step (.text (text.toList.map Char.toNat).reverse) '"' =
      some ([.text (some text)], .between) := by
    simp [Mode.step, charsOf_toNat]
  rw [writtenString, writtenText, List.cons_append, List.append_assoc, tokensFrom_skip start,
    tokensFrom_writtenChars, List.append_nil, List.singleton_append, tokensFrom_cons stop]
  rfl

theorem spells_string (text : String) : Spells (writtenString text) [.text (some text)] :=
  fun rest _ => tokensFrom_writtenString text rest

end Json

end LiveTable
