import DesignTokens.FileTree.Access
import Mathlib.Data.List.Basic
import Mathlib.Data.List.Induction

/-!
# The way to a location

Following a path leads through the locations that its parts reach one after the
other. It succeeds exactly when the path has a name, no part of it is too long, and
a directory stands at every location before the last. It then ends at the location
that the words of the path lead to, so that it does not depend on anything else in
the tree.
-/

namespace DesignTokens

namespace Path

/-- The locations that parts lead through from a location on, from the first to the
one they end at. -/
def passed (location : Location) : List Text -> List Location
  | [] => [location]
  | part :: parts => location :: passed (advance location part) parts

/-- The locations that a path leads through, the one it ends at included. -/
def through (path : Path) (current : Location) : List Location :=
  passed (path.start current) path.parts

/-- The locations above the one that a path ends at. -/
def above (path : Path) (current : Location) : List Location :=
  path.parent.through current

/-- One part further on, one more location is passed. -/
theorem passed_concat (location : Location) (parts : List Text) (last : Text) :
    passed location (parts ++ [last]) =
      passed location parts ++ [(parts ++ [last]).foldl advance location] := by
  induction parts generalizing location with
  | nil => rfl
  | cons part others ih => simp [passed, ih]

/-- The locations that parts lead through are those before the last part and the one
where they end. -/
theorem mem_passed_iff {location asked : Location} {parts : List Text} :
    asked ∈ passed location parts ↔
      asked ∈ passed location parts.dropLast ∨ asked = parts.foldl advance location := by
  cases parts using List.reverseRecOn with
  | nil => simp [passed]
  | append_singleton parts last => simp [passed_concat]

/-- A path leads through what is above its end, and to its end. -/
theorem mem_through_iff {path : Path} {current asked : Location} :
    asked ∈ path.through current ↔
      asked ∈ path.above current ∨ asked = path.locationOf current :=
  mem_passed_iff

/-- A path leads to its end. -/
theorem locationOf_mem_through (path : Path) (current : Location) :
    path.locationOf current ∈ path.through current :=
  mem_through_iff.mpr (.inr rfl)

/-- An entry of a directory has the location of the directory, advanced by its name. -/
theorem locationOf_entry (path : Path) (name : Text) (current : Location) :
    (path.entry name).locationOf current = advance (path.locationOf current) name := by
  simp only [locationOf, entry, List.foldl_append]
  rfl

/-- The end of a path with at least one part is one part further on than what is above. -/
theorem locationOf_eq_advance {path : Path} {last : Text} (ends : path.parts.getLast? = some last)
    (current : Location) :
    path.locationOf current = advance (path.parent.locationOf current) last := by
  have parts : path.parts = path.parts.dropLast ++ [last] :=
    (List.dropLast_append_getLast? last ends).symm
  rw [← locationOf_entry]
  congr 1
  cases path
  simpa [entry, parent] using parts

/-- A path that can be followed as far as the tree goes along: it has a name, neither it
nor a part of it is too long. -/
structure Followable (path : Path) : Prop where
  named : ∃ bytes, nameBytes path.toText = .ok bytes
  short : FileTree.pathTooLong path = false
  parts : ∀ part ∈ path.parts, part = up ∨ FileTree.nameTooLong part = false

end Path

namespace FileTree

open DesignTokens.Path

/-- One part further is a directory left behind. -/
theorem enter_eq_ok_iff {tree : FileTree} {location next : Location} {part : Text} :
    tree.enter location part = .ok next ↔
      tree.find? location = some .directory ∧ (part = up ∨ nameTooLong part = false) ∧
        next = advance location part := by
  unfold enter
  cases tree.find? location with
  | none => simp
  | some item =>
      cases item with
      | file content => simp
      | directory =>
          rw [@eq_comm _ next]
          by_cases leads : part = up
          · simp [leads, advance]
          · cases long : nameTooLong part <;> simp [leads, advance]

/-- Parts are followed by following all but the last, and then the last. -/
theorem follow_concat (tree : FileTree) (start : Location) (parts : List Text) (last : Text) :
    tree.follow start (parts ++ [last]) =
      tree.follow start parts >>= fun location => tree.enter location last := by
  unfold follow
  by_cases there : tree.find? start = some .directory
  · rw [if_pos there, if_pos there, List.foldlM_append]
    simp
  · rw [if_neg there, if_neg there]
    rfl

/-- Parts are followed through directories only. -/
theorem follow_eq_ok_iff {tree : FileTree} {start location : Location} {parts : List Text} :
    tree.follow start parts = .ok location ↔
      (∀ part ∈ parts, part = up ∨ nameTooLong part = false) ∧
        (∀ asked ∈ passed start parts.dropLast, tree.find? asked = some .directory) ∧
        location = parts.foldl advance start := by
  induction parts using List.reverseRecOn generalizing location with
  | nil =>
      rw [@eq_comm _ location]
      by_cases there : tree.find? start = some .directory
      · simp [follow, passed, there, pure, Except.pure]
      · simp [follow, passed, there]
  | append_singleton parts last ih =>
      rw [follow_concat]
      have step : (tree.follow start parts >>= fun reached => tree.enter reached last) =
          .ok location ↔ ∃ reached, tree.follow start parts = .ok reached ∧
            tree.enter reached last = .ok location := by
        cases tree.follow start parts <;> simp [bind, Except.bind]
      rw [step]
      simp only [ih, enter_eq_ok_iff, List.dropLast_concat, List.foldl_append, List.foldl_cons,
        List.foldl_nil, List.forall_mem_append, List.forall_mem_singleton]
      constructor
      · rintro ⟨reached, ⟨names, directories, rfl⟩, directory, name, rfl⟩
        refine ⟨⟨names, name⟩, fun asked member => ?_, rfl⟩
        rcases mem_passed_iff.mp member with before | rfl
        · exact directories asked before
        · exact directory
      · rintro ⟨⟨names, name⟩, directories, rfl⟩
        refine ⟨_, ⟨names, fun asked member => ?_, rfl⟩, ?_, name, rfl⟩
        · exact directories asked (mem_passed_iff.mpr (.inl member))
        · exact directories _ (mem_passed_iff.mpr (.inr rfl))

/-- A path is located exactly when it can be followed and a directory stands at every
location above its end; it is located at its end. -/
theorem locate_eq_ok_iff {tree : FileTree} {current location : Location} {path : Path} :
    tree.locate current path = .ok location ↔
      path.Followable ∧
        (∀ asked ∈ path.above current, tree.find? asked = some .directory) ∧
        location = path.locationOf current := by
  unfold locate
  cases named : nameBytes path.toText with
  | error fault =>
      refine iff_of_false nofun fun located => ?_
      obtain ⟨bytes, same⟩ := located.1.named
      cases named.symm.trans same
  | ok bytes =>
      cases long : pathTooLong path with
      | true =>
          refine iff_of_false (by simp) fun located => ?_
          cases long.symm.trans located.1.short
      | false =>
          have same : (tree.follow (path.start current) path.parts).mapError
              (AccessFault.system · path) = .ok location ↔
                tree.follow (path.start current) path.parts = .ok location := by
            cases tree.follow (path.start current) path.parts <;> simp [Except.mapError]
          simp only [Bool.false_eq_true, if_false]
          rw [same, follow_eq_ok_iff]
          constructor
          · rintro ⟨parts, directories, ends⟩
            exact ⟨⟨⟨bytes, named⟩, long, parts⟩, directories, ends⟩
          · rintro ⟨followable, directories, ends⟩
            exact ⟨followable.parts, directories, ends⟩

/-- What is done at the place of a path is done at its end, once it is located there. -/
theorem located_of_bind {Value : Type} {tree : FileTree} {current : Location} {path : Path}
    {access : Location -> Except AccessFault Value} {value : Value}
    (done : (tree.locate current path >>= access) = .ok value) :
    tree.locate current path = .ok (path.locationOf current) ∧
      access (path.locationOf current) = .ok value := by
  cases located : tree.locate current path with
  | error fault =>
      rw [located] at done
      cases done
  | ok location =>
      rw [located] at done
      obtain rfl := (locate_eq_ok_iff.mp located).2.2
      exact ⟨rfl, done⟩

/-- A path stays located at the same place as long as the directories above stay. -/
theorem locate_of_directories {before after : FileTree} {current location : Location}
    {path : Path} (located : before.locate current path = .ok location)
    (kept : ∀ asked ∈ path.above current, after.find? asked = some .directory) :
    after.locate current path = .ok location := by
  rw [locate_eq_ok_iff] at located ⊢
  exact ⟨located.1, kept, located.2.2⟩

/-- At a located place where no directory stands, something may stand. -/
theorem standing_of_locate {tree : FileTree} {current location : Location} {path : Path}
    (located : tree.locate current path = .ok location)
    (free : tree.find? location ≠ some .directory) : Standing tree.items location := by
  obtain ⟨-, directories, rfl⟩ := locate_eq_ok_iff.mp located
  have above : tree.find? (path.parent.locationOf current) = some .directory :=
    directories _ (locationOf_mem_through path.parent current)
  cases ends : path.parts.getLast? with
  | none =>
      -- Without parts a path ends where it starts, and there is a directory.
      have none : path.parts = [] := List.getLast?_eq_none_iff.mp ends
      have same : path.parent = path := by
        cases path
        simp_all [parent]
      exact absurd (same ▸ above) free
  | some last =>
      rw [locationOf_eq_advance ends] at free ⊢
      by_cases leads : last = up
      · rw [advance, if_pos leads] at free
        exact absurd (find?_dropLast above) free
      · rw [advance, if_neg leads]
        refine ⟨by simp, ?_, by rwa [List.dropLast_concat]⟩
        have plain : up ∉ path.parent.locationOf current := by
          by_cases root : path.parent.locationOf current = []
          · simp [root]
          · exact (standing_of_find? above root).2.1
        simpa [plain] using Ne.symm leads

end FileTree

end DesignTokens
