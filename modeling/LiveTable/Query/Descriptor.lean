import LiveTable.Record

/-!
# Descriptors

A descriptor says declaratively what to ask of a table: a tree of clauses, an order,
a test, a window, and what the answer is to be made of.

Tests are functions on records.  Each carries an identity; two tests are the same
when their identities are.  A test without a name is a new test whenever the descriptor
that it stands in is issued, and so a descriptor with such a test equals only itself.
-/

set_option autoImplicit false

namespace LiveTable

/-- What tells tests apart. -/
inductive TestIdentity where
  /-- A test with a name is the same wherever the name is used. -/
  | named (name : String)
  /-- A test without a name is told by where it stands and when it was issued. -/
  | unnamed (place occasion : Nat)
deriving Repr, DecidableEq

/-- The identity of a test that is issued on an occasion. -/
def TestIdentity.issued (occasion : Nat) : TestIdentity → TestIdentity
  | .named name => .named name
  | .unnamed place _ => .unnamed place occasion

/-- A test of a record, with an identity. -/
structure RecordTest where
  identity : TestIdentity
  accepts : Record → Bool

/-- The test as issued on an occasion. -/
def RecordTest.issued (occasion : Nat) (test : RecordTest) : RecordTest :=
  { test with identity := test.identity.issued occasion }

/-- A test of a record and a parameter, with an identity. -/
structure ParameterTest where
  identity : TestIdentity
  accepts : Record → Value → Bool

/-- The test as issued on an occasion. -/
def ParameterTest.issued (occasion : Nat) (test : ParameterTest) : ParameterTest :=
  { test with identity := test.identity.issued occasion }

/--
A clause: a comparison of a field, or a test, and two lists of clauses below it that
attach to the same query.
-/
structure Clause where
  field? : Option String
  operator : String
  value? : Option Value
  parameter? : Option Value
  test? : Option ParameterTest
  or? : Option (List Clause)
  and? : Option (List Clause)

namespace Clause

/-- A clause that says nothing. -/
def group : Clause :=
  ⟨none, "", none, none, none, none, none⟩

/-- A comparison of a field with a value. -/
def comparison (field operator : String) (value : Value) : Clause :=
  { group with field? := some field, operator := operator, value? := some value }

/-- The field that the clause compares, where an empty name is none. -/
def fieldName? (clause : Clause) : Option String :=
  clause.field?.filter fun field => !field.isEmpty

/-- Whether two values that may be absent are both absent or equal. -/
def sameValue? : Option Value → Option Value → Bool
  | none, none => true
  | some a, some b => a.same b
  | _, _ => false

/-- Whether two tests that may be absent are both absent or the same. -/
def sameTest? : Option ParameterTest → Option ParameterTest → Bool
  | none, none => true
  | some a, some b => a.identity == b.identity
  | _, _ => false

mutual

/-- Equality of clauses. -/
def same : Clause → Clause → Bool
  | ⟨fieldA?, operatorA, valueA?, parameterA?, testA?, orA?, andA?⟩,
    ⟨fieldB?, operatorB, valueB?, parameterB?, testB?, orB?, andB?⟩ =>
    fieldA? == fieldB? && operatorA == operatorB && sameValue? valueA? valueB? &&
      sameValue? parameterA? parameterB? && sameTest? testA? testB? &&
      sameBranch orA? orB? && sameBranch andA? andB?

/-- Equality of lists of clauses that may be absent. -/
def sameBranch : Option (List Clause) → Option (List Clause) → Bool
  | none, none => true
  | some a, some b => sameAll a b
  | _, _ => false

/-- Equality of lists of clauses. -/
def sameAll : List Clause → List Clause → Bool
  | [], [] => true
  | a :: restA, b :: restB => same a b && sameAll restA restB
  | _, _ => false

end

mutual

/-- The clause as issued on an occasion. -/
def issued (occasion : Nat) : Clause → Clause
  | ⟨field?, operator, value?, parameter?, test?, or?, and?⟩ =>
    ⟨field?, operator, value?, parameter?, test?.map (·.issued occasion),
      issuedBranch occasion or?, issuedBranch occasion and?⟩

/-- Clauses that may be absent, as issued on an occasion. -/
def issuedBranch (occasion : Nat) : Option (List Clause) → Option (List Clause)
  | none => none
  | some clauses => some (issuedAll occasion clauses)

/-- Clauses as issued on an occasion. -/
def issuedAll (occasion : Nat) : List Clause → List Clause
  | [] => []
  | clause :: rest => issued occasion clause :: issuedAll occasion rest

end

end Clause

/-- What the answer of a query is made of. -/
inductive Projection where
  | count
  | primaryKeys
  | erase
  | toArray
  | none
deriving Repr, DecidableEq

/-- The name of a projection. -/
def Projection.name : Projection → String
  | .count => "count"
  | .primaryKeys => "primaryKeys"
  | .erase => "erase"
  | .toArray => "toArray"
  | .none => "none"

/-- A declarative query. -/
structure Descriptor where
  where? : Option (List Clause)
  orderBy? : Option String
  reverse : Bool
  offset? : Option Nat
  limit? : Option Nat
  test? : Option RecordTest
  count : Bool
  primaryKeys : Bool
  erase : Bool
  toArray : Bool

namespace Descriptor

/-- The descriptor of all records. -/
def all : Descriptor :=
  ⟨none, none, false, none, none, none, false, false, false, true⟩

/-- The clauses, if there are any. -/
def clauses? (descriptor : Descriptor) : Option (List Clause) :=
  descriptor.where?.filter fun clauses => !clauses.isEmpty

/-- What the answer is made of; of several demands the first in this order counts. -/
def projection (descriptor : Descriptor) : Projection :=
  if descriptor.count then .count
  else if descriptor.primaryKeys then .primaryKeys
  else if descriptor.erase then .erase
  else if descriptor.toArray then .toArray
  else .none

/-- Whether running the descriptor deletes records. -/
def isWrite (descriptor : Descriptor) : Bool :=
  descriptor.projection = .erase

/-- The descriptor that demands that the selected records be deleted. -/
def erasing (descriptor : Descriptor) : Descriptor :=
  { descriptor with erase := true }

/-- The descriptor of the primary key of the first selected record. -/
def firstKey (descriptor : Descriptor) : Descriptor :=
  { descriptor with count := false, erase := false, primaryKeys := true, limit? := some 1 }

/-- The descriptor with one more clause at its top. -/
def withClause (descriptor : Descriptor) (clause : Clause) : Descriptor :=
  { descriptor with where? := some (descriptor.where?.getD [] ++ [clause]) }

/-- The descriptor as issued on an occasion. -/
def issued (occasion : Nat) (descriptor : Descriptor) : Descriptor :=
  { descriptor with
    where? := Clause.issuedBranch occasion descriptor.where?
    test? := descriptor.test?.map (·.issued occasion) }

/-- Equality of descriptors: values by equality, tests by identity. -/
def same (a b : Descriptor) : Bool :=
  Clause.sameBranch a.where? b.where? && a.orderBy? == b.orderBy? && a.reverse == b.reverse &&
    a.offset? == b.offset? && a.limit? == b.limit? &&
    a.test?.map RecordTest.identity == b.test?.map RecordTest.identity &&
    a.count == b.count && a.primaryKeys == b.primaryKeys && a.erase == b.erase &&
    a.toArray == b.toArray

end Descriptor

end LiveTable
