import LiveTable.Text.Printable

/-!
# Quoted texts

The form in which messages show a text: between double quotes, with escapes for the
characters that would not be seen as they are.
-/

set_option autoImplicit false

namespace LiveTable.Text

/-- A character by its code point in hexadecimal, between braces. -/
def codePointEscape (c : Char) : List Char :=
  ['\\', 'u', '\x7b'] ++ Nat.toDigits 16 c.toNat ++ ['\x7d']

/-- A character inside a quoted text. -/
def quotedChar (c : Char) : List Char :=
  match c with
  | '\x00' => ['\\', '0']
  | '\t' => ['\\', 't']
  | '\r' => ['\\', 'r']
  | '\n' => ['\\', 'n']
  | '"' => ['\\', '"']
  | '\\' => ['\\', '\\']
  | _ => if extendsGrapheme c || !isPrintable c then codePointEscape c else [c]

/-- A text between quotes, with escapes. -/
def quoted (text : List Char) : List Char :=
  '"' :: (text.flatMap quotedChar ++ ['"'])

end LiveTable.Text
