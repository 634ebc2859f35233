import DesignTokens.Dictionary
import DesignTokens.Path

/-!
# File trees

A file tree holds what stands at each location below the root directory. Files
and directories stand in directories only, and no name leads up. A change that
would break this leaves the tree as it is.

There is no more to a tree than that. Each file has one name: there are no symbolic
and no hard links. Nothing is forbidden to anyone: there are no permissions and no
locks. There is always room: a write is done in full or refused before its file is
touched. Nobody else changes the tree in between, and directories may be nested as
deep as the limits on names and paths allow, whatever the depth of calls.
-/

namespace DesignTokens

/-- What stands at a location. -/
inductive Item where
  | file (content : Bytes)
  | directory
  deriving DecidableEq, Repr

/-- What stands at a location among items; at the root there is a directory. -/
def itemAt (items : Dictionary Location Item) (location : Location) : Option Item :=
  if location = [] then some .directory else items.get? location

/-- Whether something may stand at a location among items. -/
def Standing (items : Dictionary Location Item) (location : Location) : Prop :=
  location ≠ [] ∧ Path.up ∉ location ∧ itemAt items location.dropLast = some .directory

instance (items : Dictionary Location Item) (location : Location) :
    Decidable (Standing items location) :=
  inferInstanceAs (Decidable (_ ∧ _ ∧ _))

/-- Files and directories below the root directory. -/
structure FileTree where
  items : Dictionary Location Item
  standing : ∀ location ∈ items.keys, Standing items location

namespace FileTree

/-- The tree with a root directory and nothing in it. -/
def empty : FileTree := ⟨.empty, by simp [Dictionary.keys, Dictionary.empty]⟩

instance : Inhabited FileTree := ⟨empty⟩

/-- What stands at a location. -/
def find? (tree : FileTree) (location : Location) : Option Item :=
  itemAt tree.items location

/-- At the root there is a directory. -/
@[simp]
theorem find?_root (tree : FileTree) : tree.find? [] = some .directory := rfl

/-- Whatever stands at a location below the root has a directory above it. -/
theorem standing_of_find? {tree : FileTree} {location : Location} {item : Item}
    (found : tree.find? location = some item) (below : location ≠ []) :
    Standing tree.items location := by
  simp only [find?, itemAt, below, if_false] at found
  exact tree.standing location (Dictionary.mem_keys_of_get? found)

/-- The directory above whatever stands at a location. -/
theorem find?_dropLast {tree : FileTree} {location : Location} {item : Item}
    (found : tree.find? location = some item) : tree.find? location.dropLast = some .directory := by
  by_cases below : location = []
  · simp [below]
  · exact (standing_of_find? found below).2.2

/-- A location at which an item may be placed: what stands there already is no
directory, unless the item is one. -/
def Open (tree : FileTree) (location : Location) (item : Item) : Prop :=
  Standing tree.items location ∧ (item = .directory ∨ tree.find? location ≠ some .directory)

instance (tree : FileTree) (location : Location) (item : Item) :
    Decidable (tree.Open location item) :=
  inferInstanceAs (Decidable (_ ∧ _))

/-- What stands at a location after an item was put in among others. -/
theorem itemAt_put (items : Dictionary Location Item) {location : Location} (item : Item)
    (below : location ≠ []) (asked : Location) :
    itemAt (items.put location item) asked =
      if asked = location then some item else itemAt items asked := by
  by_cases root : asked = []
  · subst root
    simp [itemAt, Ne.symm below]
  · simp [itemAt, root]

/-- An item at an open location leaves everything else standing. -/
theorem standing_put {tree : FileTree} {location : Location} {item : Item}
    (allowed : tree.Open location item) :
    ∀ asked ∈ (tree.items.put location item).keys,
      Standing (tree.items.put location item) asked := by
  obtain ⟨⟨below, plain, above⟩, kept⟩ := allowed
  intro asked member
  have before : Standing tree.items asked := by
    rcases (Dictionary.mem_keys_put _ _ _ _).mp member with earlier | rfl
    · exact tree.standing asked earlier
    · exact ⟨below, plain, above⟩
  refine ⟨before.1, before.2.1, ?_⟩
  rw [itemAt_put tree.items item below]
  split
  next same =>
    rcases kept with directory | other
    · simp [directory]
    · exact absurd (same ▸ before.2.2) other
  · exact before.2.2

/-- The tree after an item was placed at an open location. -/
def place (tree : FileTree) (location : Location) (item : Item) : FileTree :=
  if allowed : tree.Open location item then
    ⟨tree.items.put location item, standing_put allowed⟩
  else tree

/-- Placing an item changes what stands at its location and nothing else. -/
theorem find?_place {tree : FileTree} {location : Location} {item : Item}
    (allowed : tree.Open location item) (asked : Location) :
    (tree.place location item).find? asked =
      if asked = location then some item else tree.find? asked := by
  simp only [place, allowed, dif_pos, find?]
  exact itemAt_put tree.items item allowed.1.1 asked

/-- What stands at a location after everything at and below another was taken out. -/
theorem get?_prune (items : Dictionary Location Item) (location asked : Location) :
    (items.keep fun key => !location.isPrefixOf key).get? asked =
      if location.isPrefixOf asked then none else items.get? asked := by
  rw [Dictionary.get?_keep]
  cases location.isPrefixOf asked <;> rfl

/-- The tree without whatever stands at or below a location. -/
def prune (tree : FileTree) (location : Location) : FileTree where
  items := tree.items.keep fun key => !location.isPrefixOf key
  standing := by
    intro asked member
    obtain ⟨earlier, outside⟩ := (Dictionary.mem_keys_keep _ _ _).mp member
    obtain ⟨below, plain, above⟩ := tree.standing asked earlier
    refine ⟨below, plain, ?_⟩
    by_cases root : asked.dropLast = []
    · simp [itemAt, root]
    · simp only [itemAt, root, if_false] at above ⊢
      rw [get?_prune, above]
      have parentOutside : ¬ location.isPrefixOf asked.dropLast = true := by
        intro inside
        have whole : location <+: asked :=
          (List.isPrefixOf_iff_prefix.mp inside).trans (List.dropLast_prefix asked)
        simp [List.isPrefixOf_iff_prefix.mpr whole] at outside
      simp [parentOutside]

/-- Pruning takes out what stands at or below a location and nothing else. -/
theorem find?_prune (tree : FileTree) {location : Location} (below : location ≠ [])
    (asked : Location) :
    (tree.prune location).find? asked =
      if location.isPrefixOf asked then none else tree.find? asked := by
  by_cases root : asked = []
  · subst root
    cases location with
    | nil => exact absurd rfl below
    | cons name others => rfl
  · simp only [find?, itemAt, root, if_false, prune]
    exact get?_prune tree.items location asked

/-- Whatever stands below a location stands below a directory. -/
theorem find?_of_append {tree : FileTree} {location rest : Location} {item : Item}
    (found : tree.find? (location ++ rest) = some item) (further : rest ≠ []) :
    tree.find? location = some .directory := by
  have above := find?_dropLast found
  rw [List.dropLast_append_of_ne_nil further] at above
  by_cases last : rest.dropLast = []
  · rwa [last, List.append_nil] at above
  · exact find?_of_append above last
  termination_by rest.length
  decreasing_by
    have positive := List.length_pos_iff.mpr further
    simp only [List.length_dropLast]
    omega

/-- The locations on the way to a location, the root left out. -/
def ancestors (location : Location) : List Location :=
  (List.range (location.length - 1)).map fun depth => location.take (depth + 1)

/-- The tree after an item was placed together with all directories on the way. -/
def putWithParents (tree : FileTree) (location : Location) (item : Item) : FileTree :=
  ((ancestors location).foldl (fun grown above => grown.place above .directory) tree).place
    location item

end FileTree

end DesignTokens
