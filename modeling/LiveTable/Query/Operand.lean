import LiveTable.Number.Reading
import LiveTable.Text.Blank
import LiveTable.Text.Split
import LiveTable.Value.Order

/-!
# Operands

What a query gives an operator to compare with is coerced before it is used.  A text
that looks like a number becomes one, an integer where it is integral and fits 64
bits; a text with commas becomes a list of arguments, each coerced by itself.  A blank
text is zero, and the leads `0x`, `0o` and `0b` denote bases.
-/

set_option autoImplicit false

namespace LiveTable

/-- A coerced operand. -/
inductive Operand where
  /-- One value, null where none was given. -/
  | single (value : Value)
  /-- An array: a list for operators on lists, one value for the others. -/
  | array (items : List Value)
  /-- The arguments of a text with commas. -/
  | arguments (values : List Value)
deriving Repr, Inhabited

namespace Operand

/-- The base that two leading characters denote. -/
def baseOf? : Char → Char → Option Nat
  | '0', 'x' => some 16
  | '0', 'X' => some 16
  | '0', 'o' => some 8
  | '0', 'O' => some 8
  | '0', 'b' => some 2
  | '0', 'B' => some 2
  | _, _ => none

/-- An integer with the lead of its base; no sign may follow the lead. -/
def readBased? : List Char → Option Int64
  | zero :: letter :: digits =>
    match baseOf? zero letter with
    | some base =>
      if digits.head? = some '+' ∨ digits.head? = some '-' then none
      else NumberText.readIntIn? base digits
    | none => none
  | _ => none

/-- A finite number as a value: an integer where it is integral and of 64 bits. -/
def numberValue (number : Binary64) : Value :=
  let whole := number.truncate
  let bound : Int := twoPow 63
  if number.units = whole * Binary64.unitsPerOne ∧ -bound < whole ∧ whole < bound then
    .integer (Int64.ofInt whole)
  else .float number

/-- The number that a text looks like, if it looks like one. -/
def readNumber? (text : List Char) : Option Value :=
  let trimmed := Text.trim text
  if trimmed.isEmpty then some (.integer 0)
  else
    match readBased? trimmed with
    | some number => some (.integer number)
    | none =>
      match NumberText.readInt? trimmed with
      | some number => some (.integer number)
      | none =>
        match NumberText.readFloat? trimmed with
        | some number => if number.isFinite then some (numberValue number) else none
        | none => none

/-- One argument: a number if it looks like one, else the text as it stands. -/
def coerceText (text : List Char) : Value :=
  (readNumber? text).getD (.string (String.ofList text))

/-- The operand that a value, or the absence of one, stands for. -/
def coerce : Option Value → Operand
  | none => .single .null
  | some (.array items) => .array items
  | some (.string text) =>
    match readNumber? text.toList with
    | some number => .single number
    | none =>
      if text.toList.contains ',' then .arguments ((Text.splitAt ',' text.toList).map coerceText)
      else .single (.string text)
  | some value => .single value

/-- Whether the operand is the single null value. -/
def isNull : Operand → Bool
  | .single value => value.isNull
  | _ => false

/-- The one value to compare with. -/
def scalar : Operand → Value
  | .single value => value
  | .array items => .array items
  | .arguments values => values.headD .null

/-- The values to compare with. -/
def list : Operand → List Value
  | .single value => if value.isNull then [] else [value]
  | .array items => items
  | .arguments values => values

end Operand

end LiveTable
