import DesignTokens.Proofs.FileTree.Refusal
import DesignTokens.Proofs.FileTree.Writes
import DesignTokens.Proofs.Results

/-!
# Paths with nothing in the way

A path can be written to when it can be followed, nothing but directories stands above its
end, and no directory stands there: what is missing above is made first. Texts can be written
one after the other to paths of which each is so, as long as none leads through the end of
another.
-/

namespace DesignTokens

/-- A path starts at one of the locations above its end. -/
theorem Path.start_mem_above (path : Path) (current : Location) :
    path.start current ∈ path.above current := by
  unfold above through
  cases path.parent.parts with
  | nil => exact List.mem_singleton_self _
  | cons part others => exact List.mem_cons_self

namespace FileTree

open DesignTokens.Path

variable {tree before after : FileTree} {current : Location} {path : Path}

/-- A directory stands at a location, or one can be made there. -/
def Passable (tree : FileTree) (asked : Location) : Prop :=
  tree.find? asked = some .directory ∨ tree.find? asked = none

/-- A tree that has grown is passable where it was. -/
theorem Passable.grown {made : List Location} {asked : Location} (passable : before.Passable asked)
    (grew : GrownAt made before after) : after.Passable asked := by
  rcases grew asked with same | ⟨-, -, directory⟩
  · exact passable.imp same.trans same.trans
  · exact .inl directory

/-- Parts that lead through passable locations are followed, or a directory is missing. -/
theorem follow_of_passable {start : Location} {parts : List Text}
    (names : ∀ part ∈ parts, part = up ∨ nameTooLong part = false)
    (passable : ∀ asked ∈ passed start parts.dropLast, tree.Passable asked) :
    tree.follow start parts = .ok (parts.foldl advance start) ∨
      tree.follow start parts = .error .notFound := by
  induction parts using List.reverseRecOn with
  | nil =>
      unfold follow
      split
      · exact .inl rfl
      · exact .inr rfl
  | append_singleton parts last ih =>
      obtain ⟨others, name⟩ := List.forall_mem_append.mp names
      rw [List.dropLast_concat] at passable
      rw [follow_concat]
      rcases ih others fun asked member => passable asked (mem_passed_iff.mpr (.inl member)) with
        reached | missing
      · rw [reached, ok_bind, List.foldl_append]
        rcases passable _ (mem_passed_iff.mpr (.inr rfl)) with directory | nothing
        · exact .inl (enter_eq_ok_iff.mpr ⟨directory, name last List.mem_cons_self, rfl⟩)
        · exact .inr (by rw [enter, nothing])
      · exact .inr (by rw [missing]; rfl)

/-- Where directories stand above, one can be made at the end of a path unless a file is
there. -/
theorem exists_ensureDirectory (followable : path.Followable)
    (directories : ∀ asked ∈ path.above current, tree.find? asked = some .directory)
    (passable : tree.Passable (path.locationOf current)) :
    ∃ grown, tree.ensureDirectory current path = .ok () grown := by
  have located : tree.locate current path = .ok (path.locationOf current) :=
    locate_eq_ok_iff.mpr ⟨followable, directories, rfl⟩
  rcases passable with directory | nothing
  · refine ⟨tree, ?_⟩
    simp [ensureDirectory, makeDirectory, settle, isDirectory, query, located, directory, bind,
      Except.bind, Except.map]
  · refine ⟨tree.place (path.locationOf current) .directory, ?_⟩
    simp [ensureDirectory, makeDirectory, located, nothing, bind, Except.bind]

/-- Through passable locations, a directory is made, or it is there, or one above is missing. -/
theorem makeDirectory_of_passable (followable : path.Followable)
    (passable : ∀ asked ∈ path.through current, tree.Passable asked) :
    (∃ grown, tree.makeDirectory current path = .ok grown) ∨
      tree.makeDirectory current path = .error (.system .notFound path) ∨
      tree.makeDirectory current path = .error (.system .occupied path) ∧
        tree.HasDirectory current path := by
  obtain ⟨bytes, named⟩ := followable.named
  have follows := follow_of_passable followable.parts fun asked above =>
    passable asked (mem_passed_iff.mpr (.inl above))
  rcases follows with reached | missing
  · have located : tree.locate current path = .ok (path.locationOf current) := by
      simp only [locate, named, followable.short, reached, Bool.false_eq_true, if_false]
      rfl
    rcases passable _ (locationOf_mem_through path current) with directory | nothing
    · refine .inr (.inr ⟨?_, followable, fun asked member => ?_⟩)
      · simp [makeDirectory, located, directory, bind, Except.bind]
      · rcases mem_through_iff.mp member with above | rfl
        · exact (locate_eq_ok_iff.mp located).2.1 asked above
        · exact directory
    · refine .inl ⟨tree.place (path.locationOf current) .directory, ?_⟩
      simp [makeDirectory, located, nothing, bind, Except.bind]
  · refine .inr (.inl ?_)
    simp only [makeDirectory, locate, named, followable.short, missing, Bool.false_eq_true,
      if_false]
    rfl

/-- A directory can be made at the end of a path through passable locations, with whatever is
missing on the way, if there is one where the path starts. -/
theorem exists_createDirectories (followable : path.Followable)
    (starts : tree.find? (path.start current) = some .directory)
    (passable : ∀ asked ∈ path.through current, tree.Passable asked) :
    ∃ grown, tree.createDirectories current path = .ok () grown := by
  fun_induction tree.createDirectories current path with
  | case1 path grown made => exact ⟨grown, rfl⟩
  | case2 path refused missing root =>
      have there : tree.HasDirectory current path := by
        refine ⟨followable, fun asked member => ?_⟩
        rw [through, root] at member
        exact List.mem_singleton.mp member ▸ starts
      exact ⟨tree, settle_of_hasDirectory there .notFound refused⟩
  | case3 path refused missing further _ middle outcome ih =>
      have grew := grownAt_createDirectories tree current path.parent
      rw [outcome] at grew
      have above := (hasDirectory_of_createDirectories outcome).2
      refine exists_ensureDirectory followable above ?_
      exact (passable _ (locationOf_mem_through path current)).grown grew
  | case4 path refused missing further other middle outcome ih =>
      obtain ⟨grown, made⟩ := ih followable.parent starts fun asked member =>
        passable asked (mem_through_iff.mpr (.inl member))
      cases outcome.symm.trans made
  | case5 path earlier other refused =>
      rcases makeDirectory_of_passable followable passable with
        ⟨grown, made⟩ | missing | ⟨occupied, there⟩
      · cases refused.symm.trans made
      · cases refused.symm.trans missing
        exact absurd rfl (other path)
      · cases refused.symm.trans occupied
        exact ⟨tree, settle_of_hasDirectory there .occupied path⟩

/-- Nothing is in the way of a path. -/
structure Clear (current : Location) (path : Path) (tree : FileTree) : Prop where
  followable : path.Followable
  starts : tree.find? (path.start current) = some .directory
  above : ∀ asked ∈ path.above current, tree.Passable asked
  free : tree.find? (path.locationOf current) ≠ some .directory

namespace Clear

/-- The directories above can be made. -/
theorem createDirectories (clear : Clear current path tree) :
    ∃ grown, tree.createDirectories current path.parent = .ok () grown :=
  exists_createDirectories clear.followable.parent clear.starts clear.above

/-- The file can be written once the directories above were made, unless one of them is made
where the file goes. -/
theorem writeFile (clear : Clear current path tree)
    (apart : path.locationOf current ∉ path.above current) {grown : FileTree}
    (created : tree.createDirectories current path.parent = .ok () grown) (content : Bytes) :
    ∃ after, grown.writeFile current path content = .ok after := by
  have grew := grownAt_createDirectories tree current path.parent
  rw [created] at grew
  have located : grown.locate current path = .ok (path.locationOf current) :=
    locate_eq_ok_iff.mpr
      ⟨clear.followable, (hasDirectory_of_createDirectories created).2, rfl⟩
  have free : grown.find? (path.locationOf current) ≠ some .directory := by
    rcases grew (path.locationOf current) with same | ⟨above, -⟩
    · exact same ▸ clear.free
    · exact absurd above apart
  refine ⟨grown.place (path.locationOf current) (.file content), ?_⟩
  simp only [FileTree.writeFile, located, ok_bind]

/-- A path stays clear when a text is written elsewhere, as long as neither path leads through
the end of the other. -/
theorem kept {other : Path} {content : Text} (clear : Clear current path before)
    (wrote : Wrote current other content before after)
    (apart : other.locationOf current ∉ path.above current)
    (beside : path.locationOf current ∉ other.above current) : Clear current path after where
  followable := clear.followable
  starts := wrote.keeps_directory clear.starts
  above asked member := by
    rcases wrote.unchanged_or asked with same | rfl | ⟨-, -, directory⟩
    · exact (clear.above asked member).imp same.trans same.trans
    · exact absurd member apart
    · exact .inl directory
  free := by
    by_cases here : path.locationOf current = other.locationOf current
    · obtain ⟨bytes, -, file⟩ := wrote.file
      rw [here, file]
      nofun
    · rw [wrote.frame _ here beside]
      exact clear.free

end Clear

/-- Texts can be written at paths one after the other: nothing is in the way of any path, none
leads through the end of another, and every text has an encoding. -/
structure AllClear (current : Location) (writes : List (Path × Text)) (tree : FileTree) :
    Prop where
  clear : ∀ write ∈ writes, Clear current write.1 tree
  apart : ∀ write ∈ writes, ∀ other ∈ writes,
    write.1.locationOf current ∉ other.1.above current
  encoded : ∀ write ∈ writes, ∃ bytes, Utf8.encode write.2 = .ok bytes

/-- One of the texts may be written, and all of them can be still. -/
theorem AllClear.kept {writes : List (Path × Text)} {content : Text}
    (clear : AllClear current writes before) (member : (path, content) ∈ writes)
    (wrote : Wrote current path content before after) : AllClear current writes after where
  clear write listed := (clear.clear write listed).kept wrote
    (clear.apart _ member write listed) (clear.apart write listed _ member)
  apart := clear.apart
  encoded := clear.encoded

end FileTree

end DesignTokens
