import LiveTable.Items

/-!
# Looking up an item

Items are packed into a search tree with eleven entries a node.  Every twelfth entry
stands one level above the leaves, every twelfth of those one level above that, and so
on.  Where that leaves fewer than five entries of a level behind the last entry of the
level above, that last entry goes down a level, and an entry in front of it goes up in its
place, so that five are behind it.

A lookup comes from the root, and so it finds, among entries whose ids are the same key,
the one on the highest level, and on one level the first.  Where no two ids are the same
key there is nothing to choose.
-/

set_option autoImplicit false

namespace LiveTable

/-! ## Levels of a packed tree -/

namespace Packed

/-- How many entries apart those of a level are; the leaves are level zero. -/
def span (level : Nat) : Nat :=
  Nat.pow 12 level

/-- The position of the last entry on the level above a level, counted from one. -/
def lastAbove (size level : Nat) : Nat :=
  size / span (level + 1) * span (level + 1)

/-- How many entries of a level come after the last entry of the level above. -/
def behind (size level : Nat) : Nat :=
  (size - lastAbove size level) / span level

/-- Whether the entry at a position of a tree stands above a level. -/
def isAbove (size level position : Nat) : Bool :=
  if behind size level < 5 then
    let last := lastAbove size level
    position = last - (5 - behind size level) * span level ||
      (position % span (level + 1) = 0 && position != last)
  else position % span (level + 1) = 0

/-- The level of the entry at a position of a tree. -/
def level (size position : Nat) : Nat :=
  (List.range (Nat.log2 size)).countP fun level =>
    span (level + 1) ≤ size && isAbove size level position

end Packed

namespace Items

/-- The first of the entries on the highest level of a tree, given with their positions. -/
def highest? (size : Nat) : List ((Value × Record) × Nat) → Option (Value × Record)
  | [] => none
  | found :: rest =>
    let level := Packed.level size found.2
    if rest.all fun other => Packed.level size other.2 ≤ level then some found.1
    else highest? size rest

/-- The record that a lookup by id finds. -/
def find? (items : Items) (id : Value) : Option Record :=
  let found := (items.entries.zipIdx 1).filter fun entry => id.sameKey entry.1.1
  (highest? items.size found).map Prod.snd

end Items

end LiveTable
