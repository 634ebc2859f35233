import DesignTokens.Bundle
import DesignTokens.Proofs.FileTree.Growth
import DesignTokens.Proofs.Outcomes

/-!
# The steps of a bundle

What each step of the bundler does to the tree. A copy changes the place that it goes
to, which is never the place that it comes from; the combined stylesheet changes its
own place; and the stylesheet of the build tool is taken out of its own.
-/

namespace DesignTokens.Bundle

open FileTree

variable {current : Location} {before after : FileTree}

/-- A stylesheet was copied into the directory of the copies, away from where it stands. -/
structure Copied (current : Location) (copies sheet : Path) (content : Bytes)
    (before after : FileTree) : Prop where
  read : before.readFile current sheet = .ok content
  placed : Placed current (copies.entry sheet.name) content before after
  away : (copies.entry sheet.name).locationOf current ≠ sheet.locationOf current

/-- The stylesheet that was copied still reads the same. -/
theorem Copied.reread {copies sheet : Path} {content : Bytes}
    (copied : Copied current copies sheet content before after) :
    after.readFile current sheet = .ok content := by
  refine readFile_of_kept copied.read (fun _ => copied.placed.keeps_directory) ?_
  rw [copied.placed.found, if_neg (Ne.symm copied.away)]

/-- A stylesheet is copied and yields its target and its section, unless it is the
target itself. One whose text cannot be decoded is copied nevertheless. -/
theorem copySheet_ends (setting : Setting) (copies sheet : Path) (session : Session) :
    (copySheet setting copies sheet).Ends session
      (fun copied after => ∃ content spelled,
        Copied setting.current copies sheet content session.tree after.tree ∧
        fileText content = .ok spelled ∧
        copied = (copies.entry sheet.name, sectionText sheet.name spelled))
      fun failure after => after.tree = session.tree ∨ ∃ content,
        Copied setting.current copies sheet content session.tree after.tree ∧
        fileText content = .error failure := by
  unfold copySheet
  refine Action.ends_bind.mpr (Action.ends_get ?_)
  split
  next => exact Action.ends_bind.mpr (Action.ends_throw (.inl rfl))
  next other =>
    refine Action.ends_bind.mpr (Action.ends_look (fun content read => ?_) fun _ _ => .inl rfl)
    refine Action.ends_bind.mpr (Action.ends_change (fun tree written => ?_) fun _ _ => .inl rfl)
    refine Action.ends_bind.mpr (Action.ends_record ?_)
    have copied : Copied setting.current copies sheet content session.tree tree := by
      have placed := placed_of_writeFile written
      refine ⟨read, placed, fun same => other ?_⟩
      obtain ⟨located, found⟩ := readFile_eq_ok_iff.mp read
      simp [sameItem, located, placed.located, same, found]
    refine Action.ends_bind.mpr (Action.ends_look (fun again reread => ?_) fun _ refused => ?_)
    · obtain rfl : content = again := Except.ok.inj (copied.reread.symm.trans reread)
      refine Action.ends_bind.mpr
        (Action.ends_require (fun spelled decoded => ?_) fun _ failed => ?_)
      · exact Action.ends_pure ⟨content, spelled, copied, decoded, rfl⟩
      · exact .inr ⟨content, copied, failed⟩
    · cases copied.reread.symm.trans refused

/-- The combined stylesheet is written; without an encoding it is left empty. -/
theorem writeCombined_ends (setting : Setting) (target : Path) (sections : List Text)
    (session : Session) :
    (writeCombined setting target sections).Ends session
      (fun _ after => ∃ content,
        Utf8.encode (List.intercalate (text "\n") sections) = .ok content ∧
        Placed setting.current target content session.tree after.tree)
      fun failure after => after.tree = session.tree ∨ ∃ fault,
        Utf8.encode (List.intercalate (text "\n") sections) = .error fault ∧
        failure = .unencodable fault ∧
        Placed setting.current target [] session.tree after.tree := by
  unfold writeCombined
  split
  next content encoding =>
    exact Action.ends_change (fun tree written => ⟨content, encoding, placed_of_writeFile written⟩)
      fun _ _ => .inl rfl
  next fault encoding =>
    refine Action.ends_bind.mpr (Action.ends_change (fun tree written => ?_) fun _ _ => .inl rfl)
    exact Action.ends_throw (.inr ⟨fault, encoding, rfl, placed_of_writeFile written⟩)

/-- The stylesheet of the build tool was taken out because it was there and is no copy, or
it is a copy or was not there, and nothing was done. -/
inductive Cleared (current : Location) (stale : Path) (copied : List Path)
    (before after : FileTree) : List Path -> Prop
  | spared (same : after = before)
      (reason : stale ∈ copied ∨ before.query current stale = .ok none) :
      Cleared current stale copied before after []
  | removed (outside : stale ∉ copied) (took : TookOut current stale before after) :
      Cleared current stale copied before after [stale]

namespace Cleared

variable {stale : Path} {copied removed : List Path} {asked : Location}

/-- Every directory is still there. -/
theorem keeps_directory (cleared : Cleared current stale copied before after removed)
    (found : before.find? asked = some .directory) : after.find? asked = some .directory := by
  cases cleared with
  | spared same => rwa [same]
  | removed _ took => exact took.keeps_directory found

/-- What stands elsewhere is as before. -/
theorem find?_eq (cleared : Cleared current stale copied before after removed)
    (elsewhere : asked ≠ stale.locationOf current) : after.find? asked = before.find? asked := by
  cases cleared with
  | spared same => rw [same]
  | removed _ took => rw [took.found, if_neg elsewhere]

end Cleared

/-- The stylesheet of the build tool is taken out if it is there and is not a copy. -/
theorem removeStale_ends (setting : Setting) (stale : Path) (copied : List Path)
    (session : Session) :
    (removeStale setting stale copied).Ends session
      (fun removed after =>
        Cleared setting.current stale copied session.tree after.tree removed)
      fun _ after => after.tree = session.tree := by
  unfold removeStale
  refine Action.ends_bind.mpr (Action.ends_look (fun found looked => ?_) fun _ _ => rfl)
  split
  next standing =>
    have outside : stale ∉ copied := by
      intro member
      simp [member] at standing
    refine Action.ends_bind.mpr (Action.ends_change (fun tree removed => ?_) fun _ _ => rfl)
    refine Action.ends_bind.mpr (Action.ends_record (Action.ends_pure ?_))
    exact .removed outside (tookOut_of_removeFile removed)
  next lacking =>
    refine Action.ends_pure (.spared rfl ?_)
    cases found with
    | none => exact .inr looked
    | some item => exact .inl (by simpa using lacking)

end DesignTokens.Bundle
