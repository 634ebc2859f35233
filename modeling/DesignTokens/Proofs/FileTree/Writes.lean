import DesignTokens.Proofs.FileTree.Growth

/-!
# Texts written one after the other

A text that is written at a path becomes the file at the end of the path, and the
directories above it are there afterwards; nothing else changes. Of several texts
that are written in order, the last one at a location is the one that stays.
-/

namespace DesignTokens.FileTree

open DesignTokens.Path

/-- A text was written at a path, with the directories that were missing above. -/
structure Wrote (current : Location) (path : Path) (content : Text) (before after : FileTree) :
    Prop where
  followable : path.Followable
  file : ∃ bytes, Utf8.encode content = .ok bytes ∧
    after.find? (path.locationOf current) = some (.file bytes)
  free : before.find? (path.locationOf current) ≠ some .directory
  above : ∀ asked ∈ path.above current, after.find? asked = some .directory ∧
    (before.find? asked = some .directory ∨ before.find? asked = none)
  frame : ∀ asked, asked ≠ path.locationOf current → asked ∉ path.above current →
    after.find? asked = before.find? asked

/-- Texts were written at paths in order. -/
inductive WroteInOrder (current : Location) : List (Path × Text) -> FileTree -> FileTree -> Prop
  | nil (tree : FileTree) : WroteInOrder current [] tree tree
  | cons {path : Path} {content : Text} {others : List (Path × Text)}
      {before middle after : FileTree} (first : Wrote current path content before middle)
      (rest : WroteInOrder current others middle after) :
      WroteInOrder current ((path, content) :: others) before after

variable {current : Location} {before after : FileTree} {asked : Location}

namespace Wrote

variable {path : Path} {content : Text}

/-- A text is written by making the directories above it and the file behind them. -/
theorem of_writeFile {grown : FileTree} {bytes : Bytes}
    (encoded : Utf8.encode content = .ok bytes)
    (created : before.createDirectories current path.parent = .ok () grown)
    (written : grown.writeFile current path bytes = .ok after) :
    Wrote current path content before after := by
  have grew := grownAt_createDirectories before current path.parent
  rw [created] at grew
  obtain ⟨free, located, found⟩ := placed_of_writeFile written
  obtain ⟨followable, directories, -⟩ := locate_eq_ok_iff.mp located
  refine ⟨followable, ⟨bytes, encoded, by simp [found]⟩, fun directory => ?_, ?_, ?_⟩
  · exact free (grew.kept directory)
  · intro asked above
    have elsewhere : asked ≠ path.locationOf current := fun here =>
      free (here ▸ directories asked above)
    refine ⟨by rw [found, if_neg elsewhere, directories asked above], ?_⟩
    rcases grew asked with same | ⟨-, nothing, -⟩
    · exact .inl (same.symm.trans (directories asked above))
    · exact .inr nothing
  · intro asked elsewhere outside
    rw [found, if_neg elsewhere]
    exact (grew asked).resolve_right fun new => outside new.1

/-- Every directory is still there. -/
theorem keeps_directory (wrote : Wrote current path content before after)
    (found : before.find? asked = some .directory) : after.find? asked = some .directory := by
  by_cases above : asked ∈ path.above current
  · exact (wrote.above asked above).1
  · have elsewhere : asked ≠ path.locationOf current := fun here => wrote.free (here ▸ found)
    rw [wrote.frame asked elsewhere above, found]

/-- Every file but the one that was written is as it was. -/
theorem keeps_file (wrote : Wrote current path content before after) {bytes : Bytes}
    (elsewhere : asked ≠ path.locationOf current)
    (found : before.find? asked = some (.file bytes)) :
    after.find? asked = some (.file bytes) := by
  have outside : asked ∉ path.above current := by
    intro above
    rcases (wrote.above asked above).2 with directory | nothing
    · cases found.symm.trans directory
    · cases found.symm.trans nothing
  rw [wrote.frame asked elsewhere outside, found]

/-- What is neither the file that was written nor a new directory above is as it was. -/
theorem unchanged_or (wrote : Wrote current path content before after) (asked : Location) :
    after.find? asked = before.find? asked ∨ asked = path.locationOf current ∨
      asked ∈ path.above current ∧ before.find? asked = none ∧
        after.find? asked = some .directory := by
  by_cases here : asked = path.locationOf current
  · exact .inr (.inl here)
  by_cases above : asked ∈ path.above current
  · obtain ⟨directory, already | nothing⟩ := wrote.above asked above
    · exact .inl (directory.trans already.symm)
    · exact .inr (.inr ⟨above, nothing, directory⟩)
  · exact .inl (wrote.frame asked here above)

end Wrote

namespace WroteInOrder

variable {writes : List (Path × Text)}

/-- Every directory is still there. -/
theorem keeps_directory (wrote : WroteInOrder current writes before after)
    (found : before.find? asked = some .directory) : after.find? asked = some .directory := by
  induction wrote with
  | nil => exact found
  | cons first _ ih => exact ih (first.keeps_directory found)

/-- Every file at a location where nothing was written is as it was. -/
theorem keeps_file (wrote : WroteInOrder current writes before after) {bytes : Bytes}
    (elsewhere : ∀ write ∈ writes, asked ≠ write.1.locationOf current)
    (found : before.find? asked = some (.file bytes)) :
    after.find? asked = some (.file bytes) := by
  induction wrote with
  | nil => exact found
  | cons first _ ih =>
      obtain ⟨here, others⟩ := List.forall_mem_cons.mp elsewhere
      exact ih others (first.keeps_file here found)

/-- What is neither one of the files that were written nor a new directory above one of
them is as it was. -/
theorem unchanged_or (wrote : WroteInOrder current writes before after) (asked : Location) :
    after.find? asked = before.find? asked ∨
      (∃ write ∈ writes, asked = write.1.locationOf current) ∨
      (∃ write ∈ writes, asked ∈ write.1.above current) ∧ before.find? asked = none ∧
        after.find? asked = some .directory := by
  induction wrote with
  | nil => exact .inl rfl
  | @cons path content others before middle after first rest ih =>
      rcases first.unchanged_or asked with same | here | ⟨above, nothing, directory⟩
      · rw [← same]
        refine ih.imp_right fun written => ?_
        rcases written with ⟨write, member, there⟩ | ⟨⟨write, member, above⟩, new⟩
        · exact .inl ⟨write, List.mem_cons_of_mem _ member, there⟩
        · exact .inr ⟨⟨write, List.mem_cons_of_mem _ member, above⟩, new⟩
      · exact .inr (.inl ⟨_, List.mem_cons_self, here⟩)
      · exact .inr (.inr ⟨⟨_, List.mem_cons_self, above⟩, nothing, rest.keeps_directory directory⟩)

/-- Wherever something stood, something stands. -/
theorem keeps_standing (wrote : WroteInOrder current writes before after)
    (found : before.find? asked ≠ none) : after.find? asked ≠ none := by
  induction wrote with
  | nil => exact found
  | cons first _ ih =>
      refine ih ?_
      rcases first.unchanged_or asked with same | rfl | ⟨-, nothing, -⟩
      · rwa [same]
      · obtain ⟨bytes, -, file⟩ := first.file
        simp [file]
      · exact absurd nothing found

/-- Each path that was written to can be followed to its end. -/
theorem locate_eq (wrote : WroteInOrder current writes before after) {write : Path × Text}
    (member : write ∈ writes) :
    after.locate current write.1 = .ok (write.1.locationOf current) := by
  induction wrote with
  | nil => cases member
  | cons first rest ih =>
      rcases List.mem_cons.mp member with rfl | later
      · refine locate_eq_ok_iff.mpr ⟨first.followable, fun asked above => ?_, rfl⟩
        exact rest.keeps_directory (first.above asked above).1
      · exact ih later

/-- Each text that was written has an encoding. -/
theorem encoded (wrote : WroteInOrder current writes before after) {write : Path × Text}
    (member : write ∈ writes) : ∃ bytes, Utf8.encode write.2 = .ok bytes := by
  induction wrote with
  | nil => cases member
  | cons first _ ih =>
      rcases List.mem_cons.mp member with rfl | later
      · exact first.file.imp fun _ both => both.1
      · exact ih later

/-- A file that was written stays when nothing is written to its location later. -/
theorem find?_of_last {last : Path × Text} {done rest : List (Path × Text)}
    (wrote : WroteInOrder current (done ++ last :: rest) before after)
    (alone : ∀ later ∈ rest, last.1.locationOf current ≠ later.1.locationOf current)
    {bytes : Bytes} (encoding : Utf8.encode last.2 = .ok bytes) :
    after.find? (last.1.locationOf current) = some (.file bytes) := by
  induction done generalizing before with
  | nil =>
      cases wrote with
      | cons first others =>
          obtain ⟨written, encoded, found⟩ := first.file
          obtain rfl : written = bytes := Except.ok.inj (encoded.symm.trans encoding)
          exact others.keeps_file alone found
  | cons earlier done ih =>
      cases wrote with
      | cons _ others => exact ih others

end WroteInOrder

end DesignTokens.FileTree
