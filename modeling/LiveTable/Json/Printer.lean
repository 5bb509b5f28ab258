import LiveTable.Number.Written
import LiveTable.Value.Basic

/-!
# Writing interchange texts

Texts are written without blanks.  In a text only the quote, the backslash and the
control characters below the space are escaped.
-/

set_option autoImplicit false

namespace LiveTable.Json

/-- Items with commas between them. -/
def commaSeparated : List (List Char) → List Char
  | [] => []
  | [single] => single
  | item :: rest => item ++ ',' :: commaSeparated rest

/-- A hexadecimal digit in lower case. -/
def hexDigit (value : Nat) : Char :=
  Nat.digitChar value

/-- A character inside a text. -/
def writtenChar (c : Char) : List Char :=
  match c with
  | '"' => ['\\', '"']
  | '\\' => ['\\', '\\']
  | '\x08' => ['\\', 'b']
  | '\t' => ['\\', 't']
  | '\n' => ['\\', 'n']
  | '\x0c' => ['\\', 'f']
  | '\r' => ['\\', 'r']
  | _ =>
    if c.toNat < 0x20 then
      ['\\', 'u', '0', '0', hexDigit (c.toNat / 16), hexDigit (c.toNat % 16)]
    else [c]

/-- A text between quotes. -/
def writtenText (text : List Char) : List Char :=
  '"' :: (text.flatMap writtenChar ++ ['"'])

/-- A string between quotes. -/
def writtenString (text : String) : List Char :=
  writtenText text.toList

/-- A truth value. -/
def writtenFlag (flag : Bool) : List Char :=
  if flag then "true".toList else "false".toList

/-- A natural number. -/
def writtenNat (n : Nat) : List Char :=
  Digits.ofNat n

/-- A floating point number; one that is not finite is written as null. -/
def writtenFloat (number : Binary64) : List Char :=
  if number.isFinite then number.interchanged else "null".toList

/-- An array of written items. -/
def writtenArray (items : List (List Char)) : List Char :=
  '[' :: (commaSeparated items ++ [']'])

/-- An object of written fields, in the order given. -/
def writtenObject (fields : List (String × List Char)) : List Char :=
  '\x7b' :: (commaSeparated (fields.map fun field =>
    writtenString field.1 ++ ':' :: field.2) ++ ['\x7d'])

mutual

/-- The text of a value. -/
def writtenValue : Value → List Char
  | .null => "null".toList
  | .boolean flag => writtenFlag flag
  | .integer number => Digits.ofInt number.toInt
  | .float number => writtenFloat number
  | .string text => writtenString text
  | .array items => writtenArray (writtenItems items)
  | .object fields => writtenObject (writtenFields fields)

/-- The texts of the items of an array. -/
def writtenItems : List Value → List (List Char)
  | [] => []
  | item :: rest => writtenValue item :: writtenItems rest

/-- The names of the fields of an object with the texts of their values. -/
def writtenFields : List (String × Value) → List (String × List Char)
  | [] => []
  | (name, value) :: rest => (name, writtenValue value) :: writtenFields rest

end

end LiveTable.Json
