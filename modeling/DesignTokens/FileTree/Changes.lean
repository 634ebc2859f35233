import DesignTokens.FileTree

/-!
# Changes of a file tree

What is new or different in a tree compared with an earlier one, and what is gone.
Both are listed by path, so that a directory comes before what stands in it.
-/

namespace DesignTokens

/-- The differences between two trees. -/
structure TreeChanges where
  written : List (Location × Item)
  removed : List Location
  deriving DecidableEq, Repr

namespace FileTree

/-- The order of locations by the text of their paths. -/
def listedNoLater (first second : Location) : Bool :=
  Text.noLater (Path.ofLocation first).toText (Path.ofLocation second).toText

/-- The differences of a later tree from an earlier one. -/
def changes (before after : FileTree) : TreeChanges where
  written :=
    (after.items.entries.filter fun entry => before.find? entry.1 ≠ some entry.2).mergeSort
      fun first second => listedNoLater first.1 second.1
  removed :=
    (before.items.keys.filter fun location => (after.find? location).isNone).mergeSort
      listedNoLater

end FileTree

end DesignTokens
