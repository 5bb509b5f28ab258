import LiveTable.Json.Reader
import LiveTable.Proofs.Json.Trees
import LiveTable.Proofs.OrderedMap

/-!
# Values read back

Texts do not say which variant of a value they were written for; a token alone tells.
Reading the text of a value gives the value back all the same, with null in the place of
every number that is not finite: an integer is the only numeral without a point and an
exponent, and no two values share a text otherwise.
-/

set_option autoImplicit false

namespace LiveTable

/--
Whether the decimal text of a number holds a point or an exponent and reads back as the number.
-/
def Binary64.ReadsBack (number : Binary64) : Prop :=
  ∃ numeral, Json.readNumeral? number.interchanged = some numeral ∧
    numeral.isInteger = false ∧ numeral.toFloat? = some number

namespace Value

/--
A value that can be written and read: its containers are nested to at most `depth` levels, the
texts of its finite numbers read back, and its objects list their names in ascending order, as
every object does that is built.
-/
inductive Interchangeable : Nat → Value → Prop
  | null (depth : Nat) : Interchangeable depth .null
  | boolean (depth : Nat) (flag : Bool) : Interchangeable depth (.boolean flag)
  | integer (depth : Nat) (number : Int64) : Interchangeable depth (.integer number)
  | float (depth : Nat) {number : Binary64} (reads : number.isFinite → number.ReadsBack) :
    Interchangeable depth (.float number)
  | string (depth : Nat) (text : String) : Interchangeable depth (.string text)
  | array {depth : Nat} {items : List Value}
    (all : ∀ item ∈ items, Interchangeable depth item) :
    Interchangeable (depth + 1) (.array items)
  | object {depth : Nat} {fields : List (String × Value)}
    (ascending : (OrderedMap.mk fields).Ascending)
    (all : ∀ field ∈ fields, Interchangeable depth field.2) :
    Interchangeable (depth + 1) (.object fields)

mutual

/-- The value with null in the place of every number that is not finite. -/
def interchanged : Value → Value
  | .float number => if number.isFinite then .float number else .null
  | .array items => .array (interchangedItems items)
  | .object fields => .object (interchangedFields fields)
  | value => value

def interchangedItems : List Value → List Value
  | [] => []
  | item :: rest => interchanged item :: interchangedItems rest

def interchangedFields : List (String × Value) → List (String × Value)
  | [] => []
  | (name, value) :: rest => (name, interchanged value) :: interchangedFields rest

end

theorem interchangedFields_eq_map (fields : List (String × Value)) :
    interchangedFields fields = fields.map fun field => (field.1, field.2.interchanged) := by
  induction fields with
  | nil => rfl
  | cons field rest ih => rw [interchangedFields, ih, List.map_cons]

mutual

/-- Whether every floating point number in a value is finite. -/
def isFinite : Value → Bool
  | .float number => number.isFinite
  | .array items => isFiniteItems items
  | .object fields => isFiniteFields fields
  | _ => true

def isFiniteItems : List Value → Bool
  | [] => true
  | item :: rest => isFinite item && isFiniteItems rest

def isFiniteFields : List (String × Value) → Bool
  | [] => true
  | (_, value) :: rest => isFinite value && isFiniteFields rest

end

mutual

/-- Nothing is replaced in a value of finite numbers. -/
theorem interchanged_of_isFinite (value : Value) (finite : value.isFinite) :
    value.interchanged = value := by
  cases value with
  | float number => exact if_pos finite
  | array items =>
      rw [interchanged, interchangedItems_of_isFinite items (by simpa [isFinite] using finite)]
  | object fields =>
      rw [interchanged, interchangedFields_of_isFinite fields (by simpa [isFinite] using finite)]
  | _ => rfl

theorem interchangedItems_of_isFinite (items : List Value) (finite : isFiniteItems items) :
    interchangedItems items = items := by
  cases items with
  | nil => rfl
  | cons item rest =>
      simp only [isFiniteItems, Bool.and_eq_true] at finite
      rw [interchangedItems, interchanged_of_isFinite item finite.1,
        interchangedItems_of_isFinite rest finite.2]

theorem interchangedFields_of_isFinite (fields : List (String × Value))
    (finite : isFiniteFields fields) : interchangedFields fields = fields := by
  cases fields with
  | nil => rfl
  | cons field rest =>
      simp only [isFiniteFields, Bool.and_eq_true] at finite
      rw [interchangedFields, interchanged_of_isFinite field.2 finite.1,
        interchangedFields_of_isFinite rest finite.2]

end

end Value

namespace Json

/-- A text is read as a value where at most `depth` levels may be nested. -/
def Conveys (depth : Nat) (text : List Char) (value : Value) : Prop :=
  ∃ tree, Denotes text tree ∧ readValue? depth tree = some value

/-! ## Numbers -/

theorem conveys_integer (depth : Nat) (number : Int64) :
    Conveys depth (Digits.ofInt number.toInt) (.integer number) := by
  refine ⟨_, denotes_numeral (readNumeral?_ofInt number.toInt), ?_⟩
  rw [readValue?, toInteger?_ofInt]

theorem conveys_float (depth : Nat) {number : Binary64}
    (reads : number.isFinite → number.ReadsBack) :
    Conveys depth (writtenFloat number) (Value.interchanged (.float number)) := by
  rw [writtenFloat, Value.interchanged]
  split
  · next finite =>
      rcases reads finite with ⟨numeral, read, pointed, value⟩
      have noInteger : numeral.toInteger? = none := by
        simp [Numeral.toInteger?, pointed]
      refine ⟨_, denotes_numeral read, ?_⟩
      rw [readValue?, noInteger, value]
      rfl
  · exact ⟨_, denotes_null, rfl⟩

/-! ## Containers -/

theorem conveys_array {depth : Nat} {items : List Value}
    (all : ∀ item ∈ items, Conveys depth (writtenValue item) item.interchanged) :
    Conveys (depth + 1) (writtenValue (.array items)) (Value.interchanged (.array items)) := by
  have trees : ∃ trees, List.Forall₂ Denotes (writtenItems items) trees ∧
      readItems? depth trees = some (Value.interchangedItems items) := by
    induction items with
    | nil => exact ⟨[], .nil, rfl⟩
    | cons item rest ih =>
        rcases all item List.mem_cons_self with ⟨tree, denoted, read⟩
        rcases ih fun other later => all other (List.mem_cons_of_mem _ later)
          with ⟨trees, others, readOthers⟩
        refine ⟨tree :: trees, .cons denoted others, ?_⟩
        rw [readItems?, read, readOthers, Value.interchangedItems]
  rcases trees with ⟨trees, denoted, read⟩
  refine ⟨.array trees, denotes_array denoted, ?_⟩
  rw [readValue?, if_neg (Nat.succ_ne_zero depth), Nat.add_sub_cancel, read,
    Value.interchanged]
  rfl

/-- Names in ascending order stay in place, also where values are replaced. -/
theorem ofList_interchangedFields {fields : List (String × Value)}
    (ascending : (OrderedMap.mk fields).Ascending) :
    OrderedMap.ofList (Value.interchangedFields fields) =
      ⟨Value.interchangedFields fields⟩ := by
  have sorted : (OrderedMap.mk (Value.interchangedFields fields)).Ascending := by
    rw [Value.interchangedFields_eq_map]
    exact List.pairwise_map.mpr ascending
  exact sorted.ofList_entries

theorem conveys_object {depth : Nat} {fields : List (String × Value)}
    (ascending : (OrderedMap.mk fields).Ascending)
    (all : ∀ field ∈ fields, Conveys depth (writtenValue field.2) field.2.interchanged) :
    Conveys (depth + 1) (writtenValue (.object fields)) (Value.interchanged (.object fields)) := by
  have sorted := ofList_interchangedFields ascending
  have trees : ∃ trees : List (Content × Tree),
      List.Forall₂ (fun field tree => tree.1 = some field.1 ∧ Denotes field.2 tree.2)
        (writtenFields fields) trees ∧
      readFields? depth trees = some (Value.interchangedFields fields) := by
    clear ascending sorted
    induction fields with
    | nil => exact ⟨[], .nil, rfl⟩
    | cons field rest ih =>
        rcases all field List.mem_cons_self with ⟨tree, denoted, read⟩
        rcases ih fun other later => all other (List.mem_cons_of_mem _ later)
          with ⟨trees, others, readOthers⟩
        refine ⟨(some field.1, tree) :: trees, .cons ⟨rfl, denoted⟩ others, ?_⟩
        simp [readFields?, read, readOthers, Value.interchangedFields]
  rcases trees with ⟨trees, denoted, read⟩
  refine ⟨.object trees, denotes_object denoted, ?_⟩
  rw [readValue?, if_neg (Nat.succ_ne_zero depth), Nat.add_sub_cancel, read,
    Value.interchanged, Option.map_some, sorted]

/-! ## Round trips -/

/-- The text of a value is read as the value, null aside. -/
theorem conveys_value {depth : Nat} {value : Value} (fits : value.Interchangeable depth) :
    Conveys depth (writtenValue value) value.interchanged := by
  induction fits with
  | null depth => exact ⟨_, denotes_null, rfl⟩
  | boolean depth flag => exact ⟨_, denotes_flag flag, rfl⟩
  | integer depth number => exact conveys_integer depth number
  | float depth reads => exact conveys_float depth reads
  | string depth text => exact ⟨_, denotes_string text, rfl⟩
  | array _ ih => exact conveys_array ih
  | object ascending _ ih => exact conveys_object ascending ih

theorem valueOfText?_of_conveys {text : List Char} {value : Value}
    (conveyed : Conveys depthLimit text value) : valueOfText? text = some value := by
  rcases conveyed with ⟨tree, denoted, read⟩
  rw [valueOfText?, parse?_of_denotes denoted, Option.bind_some, read]

/--
Values and records read back as they were written, variants, signs of zeros and all characters
of texts included, with null in the place of every number that is not finite.
-/
theorem values_read_back :
    (∀ value : Value, value.Interchangeable depthLimit →
      valueOfText? (writtenValue value) = some value.interchanged) ∧
    ∀ record : Record, record.toValue.Interchangeable depthLimit →
      recordOfText? (writtenValue record.toValue) =
        some ⟨record.fields.mapValues Value.interchanged⟩ := by
  have values : ∀ value : Value, value.Interchangeable depthLimit →
      valueOfText? (writtenValue value) = some value.interchanged := fun value fits =>
    valueOfText?_of_conveys (conveys_value fits)
  refine ⟨values, fun record fits => ?_⟩
  rw [recordOfText?, values _ fits, Record.toValue, Value.interchanged,
    Value.interchangedFields_eq_map]
  rfl

/-- Both variants of five, a negative zero, NaN and a text with all kinds of characters. -/
theorem mixed_record_reads_back :
    let text := "\"\\\n\x01é"
    let fields (last : Value) : List (String × Value) :=
      [(text, .string text), ("fives", .array [.integer 5, .float ⟨0x4014000000000000⟩]),
        ("zero", .array [.float (.zero true), last])]
    valueOfText? (writtenValue (.object (fields (.float .nan)))) = some (.object (fields .null)) ∧
      recordOfText? (writtenValue (Record.toValue ⟨⟨fields (.float .nan)⟩⟩)) =
        some ⟨⟨fields .null⟩⟩ := by
  intro text fields
  have five : Binary64.ReadsBack ⟨0x4014000000000000⟩ :=
    ⟨⟨false, ['5'], ['0'], none⟩, by decide +kernel, rfl, by decide +kernel⟩
  have zero : Binary64.ReadsBack (.zero true) :=
    ⟨⟨true, ['0'], ['0'], none⟩, by decide +kernel, rfl, by decide +kernel⟩
  have nan : Binary64.isFinite .nan → Binary64.ReadsBack .nan := fun finite =>
    absurd finite (by decide)
  have ascending : (OrderedMap.mk (fields (.float .nan))).Ascending := by decide
  have fits : Value.Interchangeable depthLimit (.object (fields (.float .nan))) := by
    refine .object ascending ?_
    simp only [fields, List.forall_mem_cons, List.not_mem_nil, false_implies, implies_true,
      and_true]
    refine ⟨.string _ text, .array ?_, .array ?_⟩
    · simp only [List.forall_mem_cons, List.not_mem_nil, false_implies, implies_true, and_true]
      exact ⟨.integer _ 5, .float _ fun _ => five⟩
    · simp only [List.forall_mem_cons, List.not_mem_nil, false_implies, implies_true, and_true]
      exact ⟨.float _ fun _ => zero, .float _ nan⟩
  exact ⟨values_read_back.1 _ fits, values_read_back.2 ⟨⟨fields (.float .nan)⟩⟩ fits⟩

end Json

end LiveTable
