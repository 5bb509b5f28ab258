import Mathlib.Data.List.Forall2
import LiveTable.Json.Tree
import LiveTable.Proofs.Json.Tokens

/-!
# Trees of written texts

`Denotes` says that a text stands for a tree wherever an item is due: its tokens are
read in front of the end of an item, and the pushdown takes them to the state after
that tree, whatever is open around it.  Written arrays and objects denote the trees of
what their items denote, so what a whole text denotes follows along its structure.
-/

set_option autoImplicit false

namespace LiveTable.Json

/-- Tokens make an item, whatever is open around it. -/
def Builds (tokens : List Token) (tree : Tree) : Prop :=
  ∀ frames mayClose,
    tokens.foldlM State.step (.item frames mayClose) = some (.after frames tree)

/-- Tokens make a field, whatever is open around it. -/
def BuildsField (tokens : List Token) (field : Content × Tree) : Prop :=
  ∀ frames before mayClose, tokens.foldlM State.step (.field frames before mayClose) =
    some (.after (.object before field.1 :: frames) field.2)

/-- A text stands for a tree where an item is due. -/
def Denotes (text : List Char) (tree : Tree) : Prop :=
  ∃ tokens, Spells text tokens ∧ Builds tokens tree

/-- A text stands for a field where a field is due. -/
def DenotesField (text : List Char) (field : Content × Tree) : Prop :=
  ∃ tokens, Spells text tokens ∧ BuildsField tokens field

/-! ## Scalars -/

theorem denotes_null : Denotes "null".toList .null :=
  ⟨_, spells_null, fun _ _ => rfl⟩

theorem denotes_flag (flag : Bool) : Denotes (writtenFlag flag) (.boolean flag) :=
  ⟨_, spells_flag flag, fun _ _ => rfl⟩

theorem denotes_string (text : String) : Denotes (writtenString text) (.text (some text)) :=
  ⟨_, spells_string text, fun _ _ => rfl⟩

theorem denotes_numeral {text : List Char} {numeral : Numeral}
    (read : readNumeral? text = some numeral) : Denotes text (.number numeral) :=
  ⟨_, spells_numeral read, fun _ _ => rfl⟩

/-! ## Items between marks -/

/-- Tokens of items with commas between them. -/
def separated : List (List Token) → List Token
  | [] => []
  | [single] => single
  | item :: rest => item ++ .comma :: separated rest

theorem spells_commaSeparated {texts : List (List Char)} {parts : List (List Token)}
    (spelled : List.Forall₂ Spells texts parts) :
    Spells (commaSeparated texts) (separated parts) := by
  induction spelled with
  | nil =>
      intro rest _
      simp [commaSeparated, separated]
  | @cons text part texts parts first others ih =>
      cases others with
      | nil => exact first
      | cons second more =>
          intro rest delimited
          have comma : Mode.step .between ',' = some ([.comma], .between) := rfl
          have delimiter (later : List Char) : Delimited (',' :: later) := Or.inl rfl
          rw [commaSeparated.eq_3 _ _ (by simp), separated.eq_3 _ _ (by simp), List.append_assoc,
            List.cons_append, first _ (delimiter _), tokensFrom_cons comma, ih rest delimited]
          simp [Function.comp_def]

/-- A text between an opening and a closing mark gives its tokens between those of the marks. -/
theorem spells_between {text : List Char} {tokens : List Token} (spelled : Spells text tokens)
    {opening closing : Char} {first last : Token}
    (opens : Mode.step .between opening = some ([first], .between))
    (closes : Mode.step .between closing = some ([last], .between))
    (delimiter : Delimited [closing]) :
    Spells (opening :: (text ++ [closing])) (first :: (tokens ++ [last])) := by
  intro rest _
  rw [List.cons_append, List.append_assoc, tokensFrom_cons opens, List.singleton_append,
    spelled (closing :: rest) delimiter, tokensFrom_cons closes]
  simp [Function.comp_def]

/--
Tokens of parts with commas between them, and the mark after them, make a container.  `due` is
the state in which a part is due after those that are there, latest first.
-/
theorem builds_separated {α : Type} (due : List α → Bool → State) (whole : List α → State)
    {closing : Token} {BuildsPart : List Token → α → Prop}
    (separates : ∀ {tokens part}, BuildsPart tokens part → ∀ before mayClose,
      (tokens ++ [Token.comma]).foldlM State.step (due before mayClose) =
        some (due (part :: before) false))
    (closes : ∀ {tokens part}, BuildsPart tokens part → ∀ before mayClose,
      (tokens ++ [closing]).foldlM State.step (due before mayClose) =
        some (whole (before.reverse ++ [part])))
    {tokens : List Token} {part : α} {more : List (List Token)} {parts : List α}
    (first : BuildsPart tokens part) (built : List.Forall₂ BuildsPart more parts)
    (before : List α) (mayClose : Bool) :
    (separated (tokens :: more) ++ [closing]).foldlM State.step (due before mayClose) =
      some (whole (before.reverse ++ part :: parts)) := by
  induction built generalizing tokens part before mayClose with
  | nil => exact closes first before mayClose
  | cons second _ ih =>
      rw [separated.eq_3 _ _ (by simp), ← List.singleton_append, ← List.append_assoc,
        List.append_assoc, List.foldlM_append, separates first]
      simp only [Option.bind_eq_bind, Option.bind_some]
      rw [ih second]
      simp

/-! ## Arrays -/

theorem builds_array {parts : List (List Token)} {trees : List Tree}
    (built : List.Forall₂ Builds parts trees) :
    Builds (.openArray :: (separated parts ++ [.closeArray])) (.array trees) := by
  intro frames mayClose
  cases built with
  | nil => rfl
  | cons first others =>
      refine builds_separated (fun before => .item (.array before :: frames))
        (fun trees => .after frames (.array trees)) ?_ ?_ first others [] true
      · intro tokens tree built before mayClose
        rw [List.foldlM_append, built]
        simp [State.step, State.takeAfter]
      · intro tokens tree built before mayClose
        rw [List.foldlM_append, built]
        simp [State.step, State.takeAfter]

/-- A written array denotes the array of what its items denote. -/
theorem denotes_array {texts : List (List Char)} {trees : List Tree}
    (denoted : List.Forall₂ Denotes texts trees) :
    Denotes (writtenArray texts) (.array trees) := by
  have parts : ∃ parts, List.Forall₂ Spells texts parts ∧ List.Forall₂ Builds parts trees := by
    induction denoted with
    | nil => exact ⟨[], .nil, .nil⟩
    | cons first _ ih =>
        rcases first with ⟨tokens, spelled, built⟩
        rcases ih with ⟨parts, allSpelled, allBuilt⟩
        exact ⟨tokens :: parts, .cons spelled allSpelled, .cons built allBuilt⟩
  rcases parts with ⟨parts, spelled, built⟩
  exact ⟨_, spells_between (spells_commaSeparated spelled) rfl rfl (Or.inr (.inl rfl)),
    builds_array built⟩

/-! ## Objects -/

theorem builds_object {parts : List (List Token)} {fields : List (Content × Tree)}
    (built : List.Forall₂ BuildsField parts fields) :
    Builds (.openObject :: (separated parts ++ [.closeObject])) (.object fields) := by
  intro frames mayClose
  cases built with
  | nil => rfl
  | cons first others =>
      refine builds_separated (.field frames) (fun fields => .after frames (.object fields))
        ?_ ?_ first others [] true
      · intro tokens field built before mayClose
        rw [List.foldlM_append, built]
        simp [State.step, State.takeAfter]
      · intro tokens field built before mayClose
        rw [List.foldlM_append, built]
        simp [State.step, State.takeAfter]

theorem denotesField {text : List Char} {tree : Tree} (name : String)
    (denoted : Denotes text tree) :
    DenotesField (writtenString name ++ ':' :: text) (some name, tree) := by
  rcases denoted with ⟨tokens, spelled, built⟩
  refine ⟨.text (some name) :: .colon :: tokens, ?_, ?_⟩
  · intro rest delimited
    have colon : Mode.step .between ':' = some ([.colon], .between) := rfl
    rw [List.append_assoc, tokensFrom_writtenString, List.cons_append, tokensFrom_cons colon,
      spelled rest delimited]
    simp [Function.comp_def]
  · intro frames before mayClose
    exact built (.object before (some name) :: frames) false

/-- A written object denotes the object of what its fields denote, in their order. -/
theorem denotes_object {fields : List (String × List Char)} {trees : List (Content × Tree)}
    (denoted : List.Forall₂
      (fun field tree => tree.1 = some field.1 ∧ Denotes field.2 tree.2) fields trees) :
    Denotes (writtenObject fields) (.object trees) := by
  have parts : ∃ parts,
      List.Forall₂ Spells
        (fields.map fun field => writtenString field.1 ++ ':' :: field.2) parts ∧
      List.Forall₂ BuildsField parts trees := by
    induction denoted with
    | nil => exact ⟨[], .nil, .nil⟩
    | @cons field tree _ _ first _ ih =>
        rcases tree with ⟨name, tree⟩
        rcases first with ⟨rfl, denoted⟩
        rcases denotesField field.1 denoted with ⟨tokens, spelled, built⟩
        rcases ih with ⟨parts, allSpelled, allBuilt⟩
        exact ⟨tokens :: parts, .cons spelled allSpelled, .cons built allBuilt⟩
  rcases parts with ⟨parts, spelled, built⟩
  exact ⟨_, spells_between (spells_commaSeparated spelled) rfl rfl (Or.inr (.inr rfl)),
    builds_object built⟩

/-! ## Whole texts -/

/-- A text that denotes a tree is parsed as it. -/
theorem parse?_of_denotes {text : List Char} {tree : Tree} (denoted : Denotes text tree) :
    parse? text = some tree := by
  rcases denoted with ⟨tokens, spelled, built⟩
  have cut : tokens? text = some tokens := by
    have whole := spelled [] trivial
    have nothing : tokensFrom .between [] = some [] := rfl
    rw [List.append_nil, nothing, Option.map_some, List.append_nil] at whole
    exact whole
  have tree : treeOf? tokens = some tree := by
    rw [treeOf?, State.initial, built]
    rfl
  rw [parse?, cut, Option.bind_some, tree]

end LiveTable.Json
