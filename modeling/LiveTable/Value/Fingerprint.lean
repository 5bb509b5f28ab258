import LiveTable.Value.Basic

/-!
# Fingerprints

What a value contributes to a hash: its kind, then its content, each list of items
preceded by its length.  A floating point number contributes its bits, so that the
two zeros, equal as values, leave different fingerprints.
-/

set_option autoImplicit false

namespace LiveTable

/-- One contribution to a hash. -/
inductive Mark where
  | kind (position : Nat)
  | flag (value : Bool)
  | word (bits : UInt64)
  | text (content : String)
  | length (count : Nat)
deriving Repr, DecidableEq

namespace Value

mutual

/-- The contributions of a value, in order. -/
def fingerprint : Value → List Mark
  | .null => [.kind 0]
  | .boolean flag => [.kind 1, .flag flag]
  | .integer number => [.kind 2, .word number.toUInt64]
  | .float number => [.kind 3, .word number.bits]
  | .string text => [.kind 4, .text text]
  | .array items => .kind 5 :: .length items.length :: fingerprintItems items
  | .object fields => .kind 6 :: .length fields.length :: fingerprintFields fields

/-- The contributions of the items of an array. -/
def fingerprintItems : List Value → List Mark
  | [] => []
  | item :: rest => item.fingerprint ++ fingerprintItems rest

/-- The contributions of the fields of an object. -/
def fingerprintFields : List (String × Value) → List Mark
  | [] => []
  | (name, value) :: rest => .text name :: (value.fingerprint ++ fingerprintFields rest)

end

end Value

end LiveTable
