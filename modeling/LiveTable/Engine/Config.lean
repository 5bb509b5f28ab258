import LiveTable.Json.Printer
import LiveTable.Json.Reader

/-!
# Configuration

What an engine is configured with, and its interchange text.
-/

set_option autoImplicit false

namespace LiveTable

/-- The configuration of an engine. -/
structure Config where
  /-- Whether transactions are timed from the start. -/
  monitor : Bool
  /-- How many of the latest transactions count as recent. -/
  recentWindow : Nat
  /-- The field that identifies records for caches. -/
  idField : String
deriving Repr, DecidableEq

namespace Config

/-- The configuration where nothing is said. -/
def standard : Config :=
  ⟨false, 10, "id"⟩

instance : Inhabited Config where
  default := standard

/-- The interchange text. -/
def written (config : Config) : List Char :=
  Json.writtenObject [
    ("monitor", Json.writtenFlag config.monitor),
    ("recentWindow", Json.writtenNat config.recentWindow),
    ("idField", Json.writtenString config.idField)]

/-- Reads a configuration; what is missing is as in the standard one. -/
def read? (tree : Json.Tree) : Option Config := do
  let parts ← Json.structureParts? ["monitor", "recentWindow", "idField"] tree
  let part (position : Nat) : Option Json.Tree := (parts[position]?).join
  let monitor ← Json.readPart? Json.readFlag? standard.monitor (part 0)
  let recentWindow ← Json.readPart? Json.readNat? standard.recentWindow (part 1)
  let idField ← Json.readPart? Json.readString? standard.idField (part 2)
  pure ⟨monitor, recentWindow, idField⟩

/-- The configuration that a text denotes. -/
def ofText? (text : List Char) : Option Config :=
  (Json.parse? text).bind read?

end Config

end LiveTable
