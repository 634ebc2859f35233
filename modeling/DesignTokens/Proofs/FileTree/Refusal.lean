import DesignTokens.Proofs.FileTree.Growth
import DesignTokens.Proofs.Path.Naming

/-!
# Why accesses are refused

An access to a path is refused for what stands in the tree, unless the path cannot be
named, in which case it is refused in every tree. A directory that is there already is no
reason: making it once more is done and changes nothing.
-/

namespace DesignTokens

namespace Path

/-- The path of a directory has no more bytes than that of an entry of it. -/
theorem pathTooLong_of_entry {path : Path} {name : Text} (nameable : (path.entry name).Nameable)
    (short : FileTree.pathTooLong (path.entry name) = false) :
    FileTree.pathTooLong path = false := by
  obtain ⟨before, last⟩ := List.forall_mem_append.mp nameable
  by_cases root : path.parts = []
  · obtain ⟨anchor, parts⟩ := path
    obtain rfl : parts = [] := root
    cases anchor <;> decide
  · obtain ⟨bytes, named⟩ := exists_nameBytes_toText_iff.mpr before
    have ending : Text.isNameable (text "/" ++ name) = true := by
      rw [Text.isNameable_append, last name List.mem_cons_self]
      rfl
    obtain ⟨others, restNamed⟩ := exists_nameBytes_iff.mpr ending
    have whole : nameBytes (path.entry name).toText = .ok (bytes ++ others) := by
      rw [toText_entry root]
      exact nameBytes_append named restNamed
    simp only [FileTree.pathTooLong, whole, named, decide_eq_false_iff_not,
      List.length_append] at short ⊢
    omega

/-- The path above one that can be followed can be followed. -/
theorem Followable.parent {path : Path} (followable : path.Followable) :
    path.parent.Followable := by
  have nameable := exists_nameBytes_toText_iff.mp followable.named
  refine ⟨exists_nameBytes_toText_iff.mpr nameable.parent, ?_, fun part member => ?_⟩
  · obtain ⟨anchor, parts⟩ := path
    cases parts using List.reverseRecOn with
    | nil => exact followable.short
    | append_singleton parts last =>
        have entry : Path.mk anchor (parts ++ [last]) = Path.entry ⟨anchor, parts⟩ last := rfl
        rw [entry, parent_entry]
        exact pathTooLong_of_entry nameable followable.short
  · exact followable.parts part (List.dropLast_subset _ member)

end Path

namespace FileTree

open DesignTokens.Path

variable {tree grown : FileTree} {current : Location} {path : Path} {fault : AccessFault}

/-- An access to a path is refused for what the tree holds, or as the path cannot be named. -/
inductive Refused (path : Path) : AccessFault -> Prop
  | system (cause : AccessCause) (asked : Path) : Refused path (.system cause asked)
  | name (fault : NameFault) (unnameable : ¬ path.Nameable) : Refused path (.name fault)

/-- What keeps the path above from being accessed may keep the path from it. -/
theorem Refused.of_parent (refused : Refused path.parent fault) : Refused path fault := by
  cases refused with
  | system cause asked => exact .system cause asked
  | name fault unnameable => exact .name fault fun nameable => unnameable nameable.parent

/-- Why a path has no location. -/
theorem refused_of_locate (failed : tree.locate current path = .error fault) :
    Refused path fault := by
  unfold locate at failed
  split at failed
  next other unnamed =>
    cases failed
    refine .name other fun nameable => ?_
    obtain ⟨bytes, named⟩ := exists_nameBytes_toText_iff.mpr nameable
    cases unnamed.symm.trans named
  next =>
    split at failed
    · cases failed
      exact .system _ _
    · cases followed : tree.follow (path.start current) path.parts with
      | ok location =>
          rw [followed] at failed
          cases failed
      | error cause =>
          rw [followed] at failed
          cases failed
          exact .system cause path

/-- Why what is done at the place of a path cannot be done. -/
theorem refused_of_bind {Value : Type} {access : Location -> Except AccessFault Value}
    (failed : (tree.locate current path >>= access) = .error fault)
    (others : ∀ location, access location = .error fault → Refused path fault) :
    Refused path fault := by
  cases located : tree.locate current path with
  | error refusal =>
      rw [located] at failed
      cases failed
      exact refused_of_locate located
  | ok location =>
      rw [located] at failed
      exact others location failed

/-- Why a directory cannot be made. -/
theorem refused_of_makeDirectory (failed : tree.makeDirectory current path = .error fault) :
    Refused path fault := by
  refine refused_of_bind failed fun location failed => ?_
  split at failed
  · cases failed
    exact .system .occupied path
  · cases failed

/-- Why a file cannot be written. -/
theorem refused_of_writeFile {content : Bytes}
    (failed : tree.writeFile current path content = .error fault) : Refused path fault := by
  refine refused_of_bind failed fun location failed => ?_
  split at failed
  · cases failed
    exact .system .isDirectory path
  · cases failed

/-- Why it cannot be told whether there is a directory. -/
theorem refused_of_isDirectory (failed : tree.isDirectory current path = .error fault) :
    Refused path fault := by
  unfold isDirectory query at failed
  cases located : tree.locate current path with
  | ok location =>
      rw [located] at failed
      cases failed
  | error refusal =>
      rw [located] at failed
      split at failed
      next asked known => cases known
      next asked known =>
        cases failed
        cases known
        exact refused_of_locate located
      next => cases failed

/-- Why there is no directory to settle for. -/
theorem refused_of_settle {earlier : AccessFault} (refused : Refused path earlier)
    (failed : tree.settle current path earlier = .error fault grown) : Refused path fault := by
  unfold settle at failed
  split at failed
  · cases failed
    exact refused
  · split at failed
    next => cases failed
    next =>
      cases failed
      exact refused
    next other unknown =>
      cases failed
      exact refused_of_isDirectory unknown

/-- Why a directory can neither be made nor be settled for. -/
theorem refused_of_ensureDirectory
    (failed : tree.ensureDirectory current path = .error fault grown) : Refused path fault := by
  unfold ensureDirectory at failed
  split at failed
  next => cases failed
  next earlier refused => exact refused_of_settle (refused_of_makeDirectory refused) failed

/-- Why a directory cannot be made together with those on the way. -/
theorem refused_of_createDirectories
    (failed : tree.createDirectories current path = .error fault grown) : Refused path fault := by
  fun_induction tree.createDirectories current path with
  | case1 path made => cases failed
  | case2 path refused missing root =>
      exact refused_of_settle (refused_of_makeDirectory missing) failed
  | case3 path refused missing further _ middle outcome ih =>
      exact refused_of_ensureDirectory failed
  | case4 path refused missing further other middle outcome ih =>
      cases failed
      exact (ih outcome).of_parent
  | case5 path earlier other refused =>
      exact refused_of_settle (refused_of_makeDirectory refused) failed

/-- A directory that is there is located at the end of its path. -/
theorem HasDirectory.locate (there : tree.HasDirectory current path) :
    tree.locate current path = .ok (path.locationOf current) :=
  locate_eq_ok_iff.mpr
    ⟨there.1, fun asked above => there.2 asked (mem_through_iff.mpr (.inl above)), rfl⟩

/-- Where a directory stands already, that is settled for. -/
theorem settle_of_hasDirectory (there : tree.HasDirectory current path) (cause : AccessCause)
    (refused : Option Path) : tree.settle current path (.system cause refused) = .ok () tree := by
  have here := there.2 _ (locationOf_mem_through path current)
  have found : tree.isDirectory current path = .ok true := by
    simp [isDirectory, query, there.locate, here, Except.map]
  simp [settle, found]

/-- Where a directory stands already, making it and those on the way changes nothing. -/
theorem createDirectories_of_hasDirectory (there : tree.HasDirectory current path) :
    tree.createDirectories current path = .ok () tree := by
  have here := there.2 _ (locationOf_mem_through path current)
  have occupied : tree.makeDirectory current path = .error (.system .occupied path) := by
    simp [makeDirectory, there.locate, here, bind, Except.bind]
  rw [createDirectories, occupied]
  exact settle_of_hasDirectory there .occupied path

end FileTree

end DesignTokens
