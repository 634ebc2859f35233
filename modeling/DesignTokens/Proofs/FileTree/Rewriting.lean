import DesignTokens.Proofs.FileTree.Clearance

/-!
# Writing the same texts again

Where texts were written in order, all of them can be written again: the directories are
there, and a file stands where each goes. What a location holds after all writes does not
depend on what was there before, so that writing them once more changes nothing.
-/

namespace DesignTokens.FileTree

open DesignTokens.Path

variable {current : Location} {before after : FileTree} {write : Path × Text}

/-- A text that has an encoding can be written at a path once more: the directories above are
there, and a file stands where it goes. -/
structure Ready (current : Location) (write : Path × Text) (tree : FileTree) : Prop where
  followable : write.1.Followable
  above : ∀ asked ∈ write.1.above current, tree.find? asked = some .directory
  file : ∃ content, tree.find? (write.1.locationOf current) = some (.file content)
  encoded : ∃ bytes, Utf8.encode write.2 = .ok bytes

namespace Ready

/-- What was written can be written again. -/
theorem of_wrote {path : Path} {content : Text} (wrote : Wrote current path content before after) :
    Ready current (path, content) after where
  followable := wrote.followable
  above asked member := (wrote.above asked member).1
  file := wrote.file.imp fun _ both => both.2
  encoded := wrote.file.imp fun _ both => both.1

/-- What can be written still can when another text was. -/
theorem kept {path : Path} {content : Text} (ready : Ready current write before)
    (wrote : Wrote current path content before after) : Ready current write after where
  followable := ready.followable
  above asked member := wrote.keeps_directory (ready.above asked member)
  file := by
    by_cases here : write.1.locationOf current = path.locationOf current
    · rw [here]
      exact wrote.file.imp fun _ both => both.2
    · obtain ⟨held, file⟩ := ready.file
      exact ⟨held, wrote.keeps_file here file⟩
  encoded := ready.encoded

end Ready

namespace WroteInOrder

variable {writes : List (Path × Text)} {asked : Location}

/-- What could be written before still can. -/
theorem keeps_ready (wrote : WroteInOrder current writes before after)
    (ready : Ready current write before) : Ready current write after := by
  induction wrote with
  | nil => exact ready
  | cons first _ ih => exact ih (ready.kept first)

/-- All that was written can be written again. -/
theorem ready (wrote : WroteInOrder current writes before after) :
    ∀ write ∈ writes, Ready current write after := by
  induction wrote with
  | nil => exact List.forall_mem_nil _
  | cons first rest ih =>
      exact List.forall_mem_cons.mpr ⟨rest.keeps_ready (.of_wrote first), ih⟩

/-- Nothing is in the way of writing all of it again. -/
theorem allClear (wrote : WroteInOrder current writes before after) :
    AllClear current writes after where
  clear write member := by
    have ready := wrote.ready write member
    obtain ⟨content, file⟩ := ready.file
    have directory := ready.above _ (write.1.start_mem_above current)
    exact ⟨ready.followable, directory, fun asked above => .inl (ready.above asked above),
      fun free => by cases file.symm.trans free⟩
  apart write member other listed inside := by
    obtain ⟨content, file⟩ := (wrote.ready write member).file
    cases file.symm.trans ((wrote.ready other listed).above _ inside)
  encoded write member := (wrote.ready write member).encoded

/-- Where something was written, the same is found whatever was there before. -/
theorem find?_eq {others last : FileTree} (wrote : WroteInOrder current writes before after)
    (again : WroteInOrder current writes others last)
    (written : ∃ write ∈ writes, asked = write.1.locationOf current) :
    last.find? asked = after.find? asked := by
  induction wrote generalizing others with
  | nil =>
      obtain ⟨write, member, -⟩ := written
      cases member
  | @cons path content rest before middle after first later ih =>
      cases again with
      | cons firstAgain laterAgain =>
          -- The first text stays only where none of the others goes.
          by_cases further : ∃ write ∈ rest, asked = write.1.locationOf current
          · exact ih laterAgain further
          · obtain ⟨write, member, rfl⟩ := written
            have here : write.1.locationOf current = path.locationOf current := by
              rcases List.mem_cons.mp member with rfl | among
              · rfl
              · exact absurd ⟨write, among, rfl⟩ further
            have elsewhere : ∀ next ∈ rest,
                path.locationOf current ≠ next.1.locationOf current :=
              fun next among same => further ⟨next, among, here.trans same⟩
            obtain ⟨bytes, encoding, found⟩ := first.file
            obtain ⟨others, encodingAgain, foundAgain⟩ := firstAgain.file
            obtain rfl : bytes = others := Except.ok.inj (encoding.symm.trans encodingAgain)
            rw [here, later.keeps_file elsewhere found,
              laterAgain.keeps_file elsewhere foundAgain]

/-- Texts that are written again leave everything as it was. -/
theorem unchanged_of_again {last : FileTree} (wrote : WroteInOrder current writes before after)
    (again : WroteInOrder current writes after last) (asked : Location) :
    last.find? asked = after.find? asked := by
  rcases again.unchanged_or asked with same | written | ⟨⟨write, member, above⟩, nothing, -⟩
  · exact same
  · exact wrote.find?_eq again written
  · cases nothing.symm.trans ((wrote.ready write member).above asked above)

end WroteInOrder

end DesignTokens.FileTree
