import LiveTable.Number.Written
import LiveTable.Text.Quoted
import LiveTable.Value.Basic

/-!
# Values in messages

The text of a value in messages: no blanks, texts and field names quoted, numbers in
positional notation.  A floating point number that is whole is written like the
integer.
-/

set_option autoImplicit false

namespace LiveTable.Value

/-- Texts with commas between them. -/
def separated : List (List Char) → List Char
  | [] => []
  | [single] => single
  | text :: rest => text ++ ',' :: separated rest

mutual

/-- The text of a value. -/
def display : Value → List Char
  | .null => ['n', 'u', 'l', 'l']
  | .boolean true => ['t', 'r', 'u', 'e']
  | .boolean false => ['f', 'a', 'l', 's', 'e']
  | .integer number => Digits.ofInt number.toInt
  | .float number => number.displayed
  | .string text => Text.quoted text.toList
  | .array items => '[' :: (separated (displayItems items) ++ [']'])
  | .object fields => '\x7b' :: (separated (displayFields fields) ++ ['\x7d'])

/-- The texts of the items of an array. -/
def displayItems : List Value → List (List Char)
  | [] => []
  | item :: rest => item.display :: displayItems rest

/-- The texts of the fields of an object: the quoted name, a colon and the value. -/
def displayFields : List (String × Value) → List (List Char)
  | [] => []
  | (name, value) :: rest =>
    (Text.quoted name.toList ++ ':' :: value.display) :: displayFields rest

end

/-- The text of a value, as a string. -/
def toText (value : Value) : String :=
  String.ofList value.display

end LiveTable.Value
