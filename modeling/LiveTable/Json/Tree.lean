import LiveTable.Json.Token

/-!
# Trees of an interchange text

The tokens of a text are put together by a pushdown: the frames hold the containers
that are open, and a state says what may come next.  A container is closed only by
its own mark, and a comma must be followed by another item.
-/

set_option autoImplicit false

namespace LiveTable.Json

/-- A parsed text; names and texts may lack content, and repeated names are all there. -/
inductive Tree where
  | null
  | boolean (flag : Bool)
  | number (numeral : Numeral)
  | text (content : Content)
  | array (items : List Tree)
  | object (fields : List (Content × Tree))
deriving Repr, Inhabited

/-- A container that is open: what it holds so far, latest first, and the name of the field at hand. -/
inductive Frame where
  | array (before : List Tree)
  | object (before : List (Content × Tree)) (name : Content)

/-- What may come next. -/
inductive State where
  /-- An item; with `mayClose`, also the end of the array just opened. -/
  | item (frames : List Frame) (mayClose : Bool)
  /-- A field name; with `mayClose`, also the end of the object just opened. -/
  | field (frames : List Frame) (before : List (Content × Tree)) (mayClose : Bool)
  /-- The colon after a field name. -/
  | colon (frames : List Frame) (before : List (Content × Tree)) (name : Content)
  /-- A comma or a closing mark, after a complete item. -/
  | after (frames : List Frame) (done : Tree)

/-- The state at the start of a text. -/
def State.initial : State :=
  .item [] false

/-- Takes a token where an item is due. -/
def State.takeItem (frames : List Frame) (mayClose : Bool) : Token → Option State
  | .null => some (.after frames .null)
  | .boolean flag => some (.after frames (.boolean flag))
  | .number numeral => some (.after frames (.number numeral))
  | .text content => some (.after frames (.text content))
  | .openArray => some (.item (.array [] :: frames) true)
  | .openObject => some (.field frames [] true)
  | .closeArray =>
    match mayClose, frames with
    | true, .array before :: outer => some (.after outer (.array before.reverse))
    | _, _ => none
  | _ => none

/-- Takes a token after a complete item. -/
def State.takeAfter (frames : List Frame) (done : Tree) (token : Token) : Option State :=
  match token, frames with
  | .comma, .array before :: outer => some (.item (.array (done :: before) :: outer) false)
  | .comma, .object before name :: outer => some (.field outer ((name, done) :: before) false)
  | .closeArray, .array before :: outer =>
    some (.after outer (.array (done :: before).reverse))
  | .closeObject, .object before name :: outer =>
    some (.after outer (.object ((name, done) :: before).reverse))
  | _, _ => none

/-- Takes one token. -/
def State.step (state : State) (token : Token) : Option State :=
  match state with
  | .item frames mayClose => State.takeItem frames mayClose token
  | .field frames before mayClose =>
    match token with
    | .text name => some (.colon frames before name)
    | .closeObject => if mayClose then some (.after frames (.object before.reverse)) else none
    | _ => none
  | .colon frames before name =>
    match token with
    | .colon => some (.item (.object before name :: frames) false)
    | _ => none
  | .after frames done => State.takeAfter frames done token

/-- The tree of a complete text. -/
def State.result? : State → Option Tree
  | .after [] done => some done
  | _ => none

/-- The tree of a list of tokens. -/
def treeOf? (tokens : List Token) : Option Tree :=
  (tokens.foldlM State.step State.initial).bind State.result?

/-- The tree of a text. -/
def parse? (text : List Char) : Option Tree :=
  (tokens? text).bind treeOf?

end LiveTable.Json
