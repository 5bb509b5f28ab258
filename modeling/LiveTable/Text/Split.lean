/-!
# Splitting a text

A text is split at every occurrence of a separator; there is always at least one
piece, and pieces may be empty.
-/

set_option autoImplicit false

namespace LiveTable.Text

/-- The pieces between the separators of a text. -/
def splitAt (separator : Char) : List Char → List (List Char)
  | [] => [[]]
  | c :: rest =>
    if c = separator then [] :: splitAt separator rest
    else
      match splitAt separator rest with
      | [] => [[c]]
      | first :: others => (c :: first) :: others

/-- The text that the pieces are split from. -/
def joinWith (separator : Char) : List (List Char) → List Char
  | [] => []
  | [single] => single
  | piece :: rest => piece ++ separator :: joinWith separator rest

end LiveTable.Text
