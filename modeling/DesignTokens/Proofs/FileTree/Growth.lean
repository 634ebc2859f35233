import DesignTokens.Proofs.FileTree.Way
import DesignTokens.Proofs.Path

/-!
# What changes do to a tree

The making of directories adds directories where nothing stood and changes nothing
else, whether it succeeds or is refused on the way. Writing a file and taking one out
each change one location. So whatever stands in a tree is disturbed only by a write
to its own location or by being taken out.
-/

namespace DesignTokens.FileTree

open DesignTokens.Path

/-- A tree has grown by directories alone, made at some of the given locations where
nothing stood. -/
def GrownAt (made : List Location) (before after : FileTree) : Prop :=
  ∀ asked, after.find? asked = before.find? asked ∨
    asked ∈ made ∧ before.find? asked = none ∧ after.find? asked = some .directory

namespace GrownAt

variable {made others : List Location} {before middle after : FileTree}

/-- A tree that stays as it is has grown nowhere. -/
theorem refl (made : List Location) (tree : FileTree) : GrownAt made tree tree :=
  fun _ => .inl rfl

/-- Whatever stood somewhere still stands there. -/
theorem kept (grown : GrownAt made before after) {asked : Location} {item : Item}
    (found : before.find? asked = some item) : after.find? asked = some item := by
  rcases grown asked with same | ⟨-, nothing, -⟩
  · exact same.trans found
  · cases nothing.symm.trans found

/-- Wherever something stood, something stands. -/
theorem keeps_standing (grown : GrownAt made before after) {asked : Location}
    (stood : before.find? asked ≠ none) : after.find? asked ≠ none := by
  obtain ⟨item, found⟩ := Option.ne_none_iff_exists'.mp stood
  simp [grown.kept found]

/-- No file is new, and none has another content. -/
theorem file_iff (grown : GrownAt made before after) {asked : Location} {content : Bytes} :
    after.find? asked = some (.file content) ↔ before.find? asked = some (.file content) := by
  constructor
  · intro found
    rcases grown asked with same | ⟨-, -, directory⟩
    · exact same.symm.trans found
    · cases directory.symm.trans found
  · exact grown.kept

/-- A tree that has grown twice has grown. -/
theorem trans (first : GrownAt made before middle) (second : GrownAt made middle after) :
    GrownAt made before after := by
  intro asked
  rcases second asked with same | ⟨member, nothing, directory⟩
  · rw [same]
    exact first asked
  · rcases first asked with before | ⟨-, -, already⟩
    · exact .inr ⟨member, before ▸ nothing, directory⟩
    · cases nothing.symm.trans already

/-- The locations may be more than those where directories were made. -/
theorem subset (grown : GrownAt made before after) (included : ∀ asked ∈ made, asked ∈ others) :
    GrownAt others before after :=
  fun asked => (grown asked).imp_right fun ⟨member, rest⟩ => ⟨included asked member, rest⟩

end GrownAt

/-- The tree that a change leaves, done or refused. -/
def ChangeResult.tree : ChangeResult -> FileTree
  | .ok _ tree => tree
  | .error _ tree => tree

variable {tree grown : FileTree} {current : Location} {path : Path}

/-- A directory that was made stands where nothing stood, and all else is as before. -/
theorem find?_of_makeDirectory (made : tree.makeDirectory current path = .ok grown) :
    tree.find? (path.locationOf current) = none ∧
      tree.locate current path = .ok (path.locationOf current) ∧
      ∀ asked, grown.find? asked =
        if asked = path.locationOf current then some .directory else tree.find? asked := by
  unfold makeDirectory at made
  obtain ⟨located, made⟩ := located_of_bind made
  split at made
  next => cases made
  next nothing =>
    cases made
    have standing := standing_of_locate located (by simp [nothing])
    exact ⟨nothing, located, find?_place ⟨standing, .inl rfl⟩⟩

/-- A tree grows by the directory that is made in it. -/
theorem grownAt_of_makeDirectory (made : tree.makeDirectory current path = .ok grown) :
    GrownAt (path.through current) tree grown := by
  obtain ⟨nothing, -, found⟩ := find?_of_makeDirectory made
  intro asked
  rw [found]
  split
  next here =>
    subst here
    exact .inr ⟨locationOf_mem_through path current, nothing, rfl⟩
  next => exact .inl rfl

/-- A directory stands at a path. -/
def HasDirectory (tree : FileTree) (current : Location) (path : Path) : Prop :=
  path.Followable ∧ ∀ asked ∈ path.through current, tree.find? asked = some .directory

/-- A directory that is found at a path stands there. -/
theorem hasDirectory_of_isDirectory (found : tree.isDirectory current path = .ok true) :
    tree.HasDirectory current path := by
  unfold isDirectory query at found
  cases located : tree.locate current path with
  | ok location =>
      have here : tree.find? location = some .directory := by
        simpa [located, Except.map] using found
      obtain ⟨followable, directories, rfl⟩ := locate_eq_ok_iff.mp located
      refine ⟨followable, fun asked member => ?_⟩
      rcases mem_through_iff.mp member with before | rfl
      · exact directories asked before
      · exact here
  | error fault =>
      rw [located] at found
      cases fault with
      | name fault => cases found
      | system cause refused => cases cause <;> cases found

/-- The name of an entry makes a name with that of a directory that is there. -/
theorem exists_nameBytes_entry {name : Text} (there : tree.HasDirectory current path)
    (below : path.parts ≠ []) (named : ∃ bytes, nameBytes (text "/" ++ name) = .ok bytes) :
    ∃ bytes, nameBytes (path.entry name).toText = .ok bytes := by
  obtain ⟨bytes, pathNamed⟩ := there.1.named
  obtain ⟨others, restNamed⟩ := named
  rw [toText_entry below]
  exact ⟨bytes ++ others, nameBytes_append pathNamed restNamed⟩

/-- The path of an entry of a directory that is there leads to its location, unless it is too
long. -/
theorem locate_entry {name : Text} (there : tree.HasDirectory current path)
    (below : path.parts ≠ []) (named : ∃ bytes, nameBytes (text "/" ++ name) = .ok bytes)
    (short : nameTooLong name = false) (fits : pathTooLong (path.entry name) = false) :
    tree.locate current (path.entry name) = .ok ((path.entry name).locationOf current) := by
  obtain ⟨⟨-, -, parts⟩, directories⟩ := id there
  have followable : (path.entry name).Followable := by
    refine ⟨exists_nameBytes_entry there below named, fits, fun part member => ?_⟩
    rcases List.mem_append.mp member with before | last
    · exact parts part before
    · obtain rfl := List.mem_singleton.mp last
      exact .inr short
  refine locate_eq_ok_iff.mpr ⟨followable, fun location above => ?_, rfl⟩
  rw [Path.above, parent_entry] at above
  exact directories location above

/-- A path of an entry that is too long is not asked for. -/
theorem pathTooLong_of_query_entry {name : Text} {found : Option Item}
    (there : tree.HasDirectory current path) (below : path.parts ≠ [])
    (named : ∃ bytes, nameBytes (text "/" ++ name) = .ok bytes)
    (asked : tree.query current (path.entry name) = .ok found) :
    pathTooLong (path.entry name) = false := by
  obtain ⟨bytes, whole⟩ := exists_nameBytes_entry there below named
  by_contra long
  have refused : tree.locate current (path.entry name) =
      .error (.system .nameTooLong (path.entry name)) := by
    simp [locate, whole, long]
  simp [query, refused] at asked

/-- What a query finds at an entry of a directory that is there is what stands at the
location of the entry. -/
theorem eq_find?_of_query_entry {name : Text} {found : Option Item}
    (there : tree.HasDirectory current path) (below : path.parts ≠ [])
    (named : ∃ bytes, nameBytes (text "/" ++ name) = .ok bytes) (short : nameTooLong name = false)
    (asked : tree.query current (path.entry name) = .ok found) :
    found = tree.find? ((path.entry name).locationOf current) := by
  have fits := pathTooLong_of_query_entry there below named asked
  simpa [query, locate_entry there below named short fits] using asked.symm

/-- A directory that was made stands at its path. -/
theorem hasDirectory_of_makeDirectory (made : tree.makeDirectory current path = .ok grown) :
    grown.HasDirectory current path := by
  obtain ⟨nothing, located, found⟩ := find?_of_makeDirectory made
  obtain ⟨followable, directories, -⟩ := locate_eq_ok_iff.mp located
  refine ⟨followable, fun asked member => ?_⟩
  rcases mem_through_iff.mp member with before | rfl
  · exact (grownAt_of_makeDirectory made).kept (directories asked before)
  · simp [found]

/-- Settling for a directory that is there changes nothing. -/
theorem tree_settle (fault : AccessFault) : (tree.settle current path fault).tree = tree := by
  unfold settle
  split
  · rfl
  · split <;> rfl

/-- What is settled for is a directory. -/
theorem hasDirectory_of_settle {fault : AccessFault}
    (settled : tree.settle current path fault = .ok () grown) :
    grown.HasDirectory current path := by
  unfold settle at settled
  split at settled
  · cases settled
  · split at settled
    next found =>
      cases settled
      exact hasDirectory_of_isDirectory found
    next => cases settled
    next => cases settled

/-- Making a directory unless there is one makes at most that one. -/
theorem grownAt_ensureDirectory (tree : FileTree) (current : Location) (path : Path) :
    GrownAt (path.through current) tree (tree.ensureDirectory current path).tree := by
  unfold ensureDirectory
  split
  next grown made => exact grownAt_of_makeDirectory made
  next =>
    rw [tree_settle]
    exact .refl _ tree

/-- Afterwards a directory is there. -/
theorem hasDirectory_of_ensureDirectory
    (ensured : tree.ensureDirectory current path = .ok () grown) :
    grown.HasDirectory current path := by
  unfold ensureDirectory at ensured
  split at ensured
  next made =>
    cases ensured
    exact hasDirectory_of_makeDirectory made
  next => exact hasDirectory_of_settle ensured

/-- Making a directory with those on the way makes no others, refused or not. -/
theorem grownAt_createDirectories (tree : FileTree) (current : Location) (path : Path) :
    GrownAt (path.through current) tree (tree.createDirectories current path).tree := by
  have onTheWay (path : Path) :
      ∀ asked ∈ path.parent.through current, asked ∈ path.through current :=
    fun asked member => mem_through_iff.mpr (.inl member)
  fun_induction tree.createDirectories current path with
  | case1 path grown made => exact grownAt_of_makeDirectory made
  | case2 path refused missing root =>
      rw [tree_settle]
      exact .refl _ tree
  | case3 path refused missing further _ grown outcome ih =>
      rw [outcome] at ih
      exact (ih.subset (onTheWay path)).trans (grownAt_ensureDirectory grown current path)
  | case4 path refused missing further fault grown outcome ih =>
      rw [outcome] at ih
      exact ih.subset (onTheWay path)
  | case5 path fault other refused =>
      rw [tree_settle]
      exact .refl _ tree

/-- Afterwards the directory is there, and so are those on the way. -/
theorem hasDirectory_of_createDirectories
    (created : tree.createDirectories current path = .ok () grown) :
    grown.HasDirectory current path := by
  unfold createDirectories at created
  split at created
  next made =>
    cases created
    exact hasDirectory_of_makeDirectory made
  next =>
    split at created
    · exact hasDirectory_of_settle created
    · split at created
      · exact hasDirectory_of_ensureDirectory created
      · cases created
  next => exact hasDirectory_of_settle created

variable {content : Bytes}

/-- A file was put at a path, where no directory stood, and all else is as before. -/
structure Placed (current : Location) (path : Path) (content : Bytes) (before after : FileTree) :
    Prop where
  free : before.find? (path.locationOf current) ≠ some .directory
  located : before.locate current path = .ok (path.locationOf current)
  found : ∀ asked, after.find? asked =
    if asked = path.locationOf current then some (.file content) else before.find? asked

/-- A file that was written stands at its place. -/
theorem placed_of_writeFile (written : tree.writeFile current path content = .ok grown) :
    Placed current path content tree grown := by
  unfold writeFile at written
  obtain ⟨located, written⟩ := located_of_bind written
  split at written
  next => cases written
  next free =>
    cases written
    have standing := standing_of_locate located free
    exact ⟨free, located, find?_place ⟨standing, .inr free⟩⟩

/-- Every directory is still there when a file was put somewhere. -/
theorem Placed.keeps_directory (placed : Placed current path content tree grown)
    {asked : Location} (found : tree.find? asked = some .directory) :
    grown.find? asked = some .directory := by
  have elsewhere : asked ≠ path.locationOf current := fun here => placed.free (here ▸ found)
  rw [placed.found, if_neg elsewhere, found]

/-- The content of a file that can be read stands at its location. -/
theorem readFile_eq_ok_iff :
    tree.readFile current path = .ok content ↔
      tree.locate current path = .ok (path.locationOf current) ∧
        tree.find? (path.locationOf current) = some (.file content) := by
  unfold readFile
  constructor
  · intro read
    obtain ⟨located, read⟩ := located_of_bind read
    split at read
    next found =>
      cases read
      exact ⟨located, found⟩
    next => cases read
    next => cases read
  · rintro ⟨located, found⟩
    simp [located, found, bind, Except.bind]

/-- A file reads as before when it stands as before and every directory is still there. -/
theorem readFile_of_kept (read : tree.readFile current path = .ok content)
    (directories : ∀ asked, tree.find? asked = some .directory →
      grown.find? asked = some .directory)
    (same : grown.find? (path.locationOf current) = tree.find? (path.locationOf current)) :
    grown.readFile current path = .ok content := by
  obtain ⟨located, found⟩ := readFile_eq_ok_iff.mp read
  refine readFile_eq_ok_iff.mpr ⟨locate_of_directories located fun asked above => ?_, ?_⟩
  · exact directories asked ((locate_eq_ok_iff.mp located).2.1 asked above)
  · rw [same, found]

/-- A file that was put somewhere is read there. -/
theorem Placed.readFile (placed : Placed current path content tree grown) :
    grown.readFile current path = .ok content := by
  refine readFile_eq_ok_iff.mpr
    ⟨locate_of_directories placed.located fun asked above => ?_, by simp [placed.found]⟩
  exact placed.keeps_directory ((locate_eq_ok_iff.mp placed.located).2.1 asked above)

/-- A file was taken out, and all else is as before. -/
structure TookOut (current : Location) (path : Path) (before after : FileTree) : Prop where
  file : ∃ content, before.find? (path.locationOf current) = some (.file content)
  found : ∀ asked, after.find? asked =
    if asked = path.locationOf current then none else before.find? asked

/-- A file that is removed is taken out. -/
theorem tookOut_of_removeFile (removed : tree.removeFile current path = .ok grown) :
    TookOut current path tree grown := by
  unfold removeFile at removed
  obtain ⟨located, removed⟩ := located_of_bind removed
  split at removed
  next content found =>
    cases removed
    refine ⟨⟨content, found⟩, fun asked => ?_⟩
    have below : path.locationOf current ≠ [] := by
      intro root
      rw [root, find?_root] at found
      cases found
    rw [find?_prune tree below]
    by_cases here : asked = path.locationOf current
    · simp [here]
    rw [if_neg here]
    -- Nothing stands below a file, so that nothing else is taken out with it.
    split
    next inside =>
      obtain ⟨rest, rfl⟩ := List.isPrefixOf_iff_prefix.mp inside
      have further : rest ≠ [] := fun none => here (by simp [none])
      cases lower : tree.find? (path.locationOf current ++ rest) with
      | none => rfl
      | some item => cases found.symm.trans (find?_of_append lower further)
    next => rfl
  next => cases removed
  next => cases removed

/-- Every directory is still there when a file was taken out. -/
theorem TookOut.keeps_directory (took : TookOut current path tree grown) {asked : Location}
    (found : tree.find? asked = some .directory) : grown.find? asked = some .directory := by
  obtain ⟨content, file⟩ := took.file
  have elsewhere : asked ≠ path.locationOf current := by
    intro here
    cases (here ▸ found).symm.trans file
  rw [took.found, if_neg elsewhere, found]

end DesignTokens.FileTree
