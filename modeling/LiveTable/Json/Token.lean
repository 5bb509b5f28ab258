import LiveTable.Number.Reading

/-!
# Tokens of an interchange text

An interchange text is cut into tokens character by character: a mode says what has
been read of the token at hand, `Mode.step` takes one character, and a token that
has no closing mark of its own ends where a character comes that cannot continue it.

A text is read as its list of code points.  Escapes can denote surrogates, and a
surrogate without its partner stands for no character: the content of such a text is
`none`.  Whether that is an error is decided by whoever needs the content.
-/

set_option autoImplicit false

namespace LiveTable.Json

/-- A number as it is written. -/
structure Numeral where
  negative : Bool
  whole : List Char
  fraction : List Char
  exponent? : Option Int
deriving Repr, DecidableEq

/-- Whether a number is written without a point and without an exponent. -/
def Numeral.isInteger (numeral : Numeral) : Bool :=
  numeral.fraction.isEmpty && numeral.exponent?.isNone

/-- A text; `none` where it holds a surrogate without its partner. -/
abbrev Content := Option String

/-- A token. -/
inductive Token where
  | openArray
  | closeArray
  | openObject
  | closeObject
  | comma
  | colon
  | null
  | boolean (flag : Bool)
  | number (numeral : Numeral)
  | text (content : Content)
deriving Repr, DecidableEq

/-- Whether a code point is the first half of a surrogate pair. -/
def isLeading (point : Nat) : Bool :=
  0xd800 ≤ point && point < 0xdc00

/-- Whether a code point is the second half of a surrogate pair. -/
def isTrailing (point : Nat) : Bool :=
  0xdc00 ≤ point && point < 0xe000

/-- The code point that a surrogate pair denotes. -/
def joinPair (leading trailing : Nat) : Nat :=
  0x10000 + (leading - 0xd800) * 0x400 + (trailing - 0xdc00)

/-- The characters that code points denote, surrogate pairs joined. -/
def charsOf : List Nat → Option (List Char)
  | [] => some []
  | [point] =>
    if isLeading point || isTrailing point then none else some [Char.ofNat point]
  | point :: next :: rest =>
    if isLeading point then
      if isTrailing next then (charsOf rest).map (Char.ofNat (joinPair point next) :: ·)
      else none
    else if isTrailing point then none
    else (charsOf (next :: rest)).map (Char.ofNat point :: ·)

/-- The number that a text denotes: no superfluous zero in front, digits on both sides of a point. -/
def readNumeral? (text : List Char) : Option Numeral :=
  let (negative, unsigned) :=
    match text with
    | '-' :: rest => (true, rest)
    | _ => (false, text)
  let (whole, afterWhole) := NumberText.splitDigits unsigned
  let (fraction, afterFraction) := NumberText.splitFraction afterWhole
  let wholeFits :=
    match whole with
    | [] => false
    | ['0'] => true
    | first :: _ => first ≠ '0'
  let fractionFits := afterWhole.head? ≠ some '.' || !fraction.isEmpty
  if wholeFits && fractionFits then
    match afterFraction with
    | [] => some ⟨negative, whole, fraction, none⟩
    | _ => (NumberText.readExponent? afterFraction).map fun power =>
        ⟨negative, whole, fraction, some power⟩
  else none

/-- The token that a run of letters denotes. -/
def readWord? (text : List Char) : Option Token :=
  if text = "null".toList then some .null
  else if text = "true".toList then some (.boolean true)
  else if text = "false".toList then some (.boolean false)
  else none

/-- The code point of a character after a backslash, `u` excepted. -/
def simpleEscape? : Char → Option Nat
  | '"' => some '"'.toNat
  | '\\' => some '\\'.toNat
  | '/' => some '/'.toNat
  | 'b' => some 8
  | 'f' => some 12
  | 'n' => some 10
  | 'r' => some 13
  | 't' => some 9
  | _ => none

/-- What has been read of the token at hand; lists hold the latest character first. -/
inductive Mode where
  | between
  | word (letters : List Char)
  | number (characters : List Char)
  | text (points : List Nat)
  | escape (points : List Nat)
  | hexadecimal (points : List Nat) (digits : List Char)
deriving Repr, DecidableEq

/-- Whether a character separates tokens. -/
def isSpace (c : Char) : Bool :=
  c = ' ' || c = '\n' || c = '\t' || c = '\r'

/-- Whether a character belongs to a run of letters. -/
def isLetter (c : Char) : Bool :=
  ('a' ≤ c && c ≤ 'z') || ('A' ≤ c && c ≤ 'Z')

/-- Whether a character can continue a number. -/
def continuesNumber (c : Char) : Bool :=
  NumberText.isDigit c || c = '.' || c = 'e' || c = 'E' || c = '+' || c = '-'

/-- Takes a character between two tokens. -/
def Mode.start (c : Char) : Option (List Token × Mode) :=
  match c with
  | '[' => some ([.openArray], .between)
  | ']' => some ([.closeArray], .between)
  | '\x7b' => some ([.openObject], .between)
  | '\x7d' => some ([.closeObject], .between)
  | ',' => some ([.comma], .between)
  | ':' => some ([.colon], .between)
  | '"' => some ([], .text [])
  | _ =>
    if isSpace c then some ([], .between)
    else if NumberText.isDigit c || c = '-' then some ([], .number [c])
    else if isLetter c then some ([], .word [c])
    else none

/-- The tokens that a mode stands for where no further character belongs to it. -/
def Mode.finish? : Mode → Option (List Token)
  | .between => some []
  | .word letters => (readWord? letters.reverse).map ([·])
  | .number characters => (readNumeral? characters.reverse).map ([.number ·])
  | _ => none

/-- Ends the token at hand and takes a character that does not belong to it. -/
def Mode.restart (mode : Mode) (c : Char) : Option (List Token × Mode) := do
  let finished ← mode.finish?
  let (tokens, next) ← Mode.start c
  pure (finished ++ tokens, next)

/-- Takes one character. -/
def Mode.step (mode : Mode) (c : Char) : Option (List Token × Mode) :=
  match mode with
  | .between => Mode.start c
  | .word letters =>
    if isLetter c then some ([], .word (c :: letters)) else mode.restart c
  | .number characters =>
    if continuesNumber c then some ([], .number (c :: characters)) else mode.restart c
  | .text points =>
    if c = '"' then some ([.text ((charsOf points.reverse).map String.ofList)], .between)
    else if c = '\\' then some ([], .escape points)
    else if c.toNat < 0x20 then none
    else some ([], .text (c.toNat :: points))
  | .escape points =>
    if c = 'u' then some ([], .hexadecimal points [])
    else (simpleEscape? c).map fun point => ([], .text (point :: points))
  | .hexadecimal points digits =>
    let digits := c :: digits
    if digits.length < 4 then some ([], .hexadecimal points digits)
    else
      (Digits.readIn? 16 digits.reverse).map fun point => ([], .text (point :: points))

/-- The tokens of the rest of a text, in a mode. -/
def tokensFrom (mode : Mode) : List Char → Option (List Token)
  | [] => mode.finish?
  | c :: rest => do
    let (tokens, next) ← mode.step c
    let later ← tokensFrom next rest
    pure (tokens ++ later)

/-- The tokens of a text. -/
def tokens? (text : List Char) : Option (List Token) :=
  tokensFrom .between text

end LiveTable.Json
