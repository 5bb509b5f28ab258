/-!
# Errors

Every failure is one of ten kinds.  A failure inside a transaction is wrapped once
with the table it happened on; `rootCause` is what was wrapped.
-/

set_option autoImplicit false

namespace LiveTable

/-- A failure of the store, of a query or of a mutation. -/
inductive Error where
  /-- The store cannot be opened. -/
  | storeNotOpenable (reason : String)
  /-- A transaction was started on a closed store. -/
  | storeClosed
  /-- Something failed inside a transaction on a table. -/
  | transactionFailed (table : String) (cause : Error)
  /-- No operator has that name. -/
  | invalidOperator (operator : String)
  /-- The operand does not fit the operator. -/
  | invalidOperand (operator : String) (reason : String)
  /-- No table has that name. -/
  | tableNotFound (name : String)
  /-- A schema breaks a rule. -/
  | invalidSchema (message : String)
  /-- A record has no usable primary key. -/
  | missingKey (table : String)
  /-- A read-only transaction attempted a write. -/
  | readOnlyTransaction (table : String)
  /-- The operation is not possible. -/
  | invalidOperation (message : String)
deriving Repr, DecidableEq, Inhabited

namespace Error

/-- The name of the kind of an error. -/
def kindName : Error → String
  | .storeNotOpenable _ => "StoreNotOpenable"
  | .storeClosed => "StoreClosed"
  | .transactionFailed _ _ => "TransactionFailed"
  | .invalidOperator _ => "InvalidOperator"
  | .invalidOperand _ _ => "InvalidOperand"
  | .tableNotFound _ => "TableNotFound"
  | .invalidSchema _ => "InvalidSchema"
  | .missingKey _ => "MissingKey"
  | .readOnlyTransaction _ => "ReadOnlyTransaction"
  | .invalidOperation _ => "InvalidOperation"

/-- The wording of an error. -/
def message : Error → String
  | .storeNotOpenable reason => s!"Store could not be opened: {reason}"
  | .storeClosed => "Store is closed"
  | .transactionFailed table cause =>
    let causeMessage := cause.message
    s!"Transaction {table}: {causeMessage}"
  | .invalidOperator operator => s!"Invalid operator: {operator}"
  | .invalidOperand operator reason => s!"Invalid operand for {operator}: {reason}"
  | .tableNotFound name => s!"Table not found: {name}"
  | .invalidSchema text => s!"Invalid schema: {text}"
  | .missingKey table => s!"Record has no primary key for table {table}"
  | .readOnlyTransaction table => s!"Write attempted in read-only transaction on {table}"
  | .invalidOperation text => s!"Invalid operation: {text}"

/--
The failure of a transaction on a table.  A cause that names its table already, or
that the store could not be opened, stays as it is.
-/
def inTransaction (table : String) : Error → Error
  | .transactionFailed other cause => .transactionFailed other cause
  | .storeNotOpenable reason => .storeNotOpenable reason
  | cause => .transactionFailed table cause

/-- The innermost cause. -/
def rootCause : Error → Error
  | .transactionFailed _ cause => cause.rootCause
  | error => error

end Error

end LiveTable
