import DesignTokens.Proofs.Artifact.Outputs
import DesignTokens.Proofs.FileTree.Rewriting

/-!
# Writing the artifacts again

A config whose artifacts were written can be written again with the same result, and the
tree stays as it is. The integration snippet has to be the same then: the plain stylesheet
must not have been written over the template that the snippet is taken from.
-/

namespace DesignTokens.Artifact

open FileTree DesignTokens.Path

variable {setting : Setting} {config : Config} {snippet : Text} {session first : Session}
  {files : List DeliveredFile}

/-- What is recorded for an artifact is told by the config and the snippet. -/
theorem Records.unique {file other : DeliveredFile} {artifact : Artifact}
    (records : Records config snippet file artifact)
    (again : Records config snippet other artifact) : file = other := by
  obtain ⟨path, bytes, encoding, size⟩ := records
  obtain ⟨otherPath, otherBytes, otherEncoding, otherSize⟩ := again
  obtain rfl : bytes = otherBytes := Except.ok.inj (encoding.symm.trans otherEncoding)
  cases file
  cases other
  rw [DeliveredFile.mk.injEq]
  exact ⟨path.trans otherPath.symm, size.trans otherSize.symm⟩

/-- What is recorded for artifacts is told by the config and the snippet. -/
theorem eq_of_records {others : List DeliveredFile} {artifacts : List Artifact}
    (records : List.Forall₂ (Records config snippet) files artifacts)
    (again : List.Forall₂ (Records config snippet) others artifacts) : files = others := by
  induction records generalizing others with
  | nil =>
      cases again
      rfl
  | cons record _ ih =>
      cases again with
      | cons recordAgain restAgain => rw [record.unique recordAgain, ih restAgain]

/-- No artifact but the plain stylesheet can go where the template is: it has another name. -/
theorem locationOf_template_ne {current : Location} {base : Path} (directory : Path)
    {artifact : Artifact} (other : artifact ≠ plainStylesheet) :
    (directory.entry Integration.templateName).locationOf current ≠
      (artifact.outputIn base config).locationOf current := by
  have plain : Plain Integration.templateName := by decide
  rw [outputIn_eq_entry other, locationOf_entry, locationOf_entry, advance_of_plain _ plain,
    advance_of_plain _ artifact.plain_label]
  intro same
  have names := List.singleton_inj.mp (List.append_inj' same rfl).2
  cases artifact <;> exact absurd names (by decide)

/-- The snippet is taken as before when the plain stylesheet was not written over it. -/
theorem snippet_of_wrote {base : Path} {after : FileTree}
    (taken : Artifact.snippet setting session.tree = .ok snippet)
    (wrote : WroteInOrder setting.current (writes base config snippet) session.tree after)
    (apart : ∀ directory, setting.templates = some directory →
      (plainStylesheet.outputIn base config).locationOf setting.current ≠
        (directory.entry Integration.templateName).locationOf setting.current) :
    Artifact.snippet setting after = .ok snippet := by
  unfold Artifact.snippet at taken ⊢
  cases templates : setting.templates with
  | none =>
      rw [templates] at taken
      exact taken
  | some directory =>
      simp only [templates] at taken ⊢
      cases read : session.tree.readFile setting.current
          (directory.entry Integration.templateName) with
      | error fault =>
          rw [read] at taken
          cases fault <;> cases taken
      | ok content =>
          have elsewhere : ∀ next ∈ writes base config snippet,
              (directory.entry Integration.templateName).locationOf setting.current ≠
                next.1.locationOf setting.current := by
            intro next member
            obtain ⟨artifact, -, rfl⟩ := List.mem_map.mp member
            by_cases other : artifact = plainStylesheet
            · exact other ▸ (apart directory templates).symm
            · exact locationOf_template_ne directory other
          have found := (readFile_eq_ok_iff.mp read).2
          have kept := readFile_of_kept read (fun _ => wrote.keeps_directory)
            ((wrote.keeps_file elsewhere found).trans found.symm)
          rw [read] at taken
          rw [kept]
          exact taken

/-- A config that was written is written again, from the same tree on, with the same files
recorded, and the tree is as before at every location. This is so unless the path of the
plain stylesheet leads to the template of the snippet. -/
theorem deliverAll_again {base : Option Path}
    (returned : deliverAll setting base config session = .ok files first)
    (apart : ∀ directory, setting.templates = some directory →
      (plainStylesheet.outputIn (baseDirectory setting base) config).locationOf setting.current ≠
        (directory.entry Integration.templateName).locationOf setting.current) :
    ∀ start : Session, start.tree = first.tree →
      ∃ again, deliverAll setting base config start = .ok files again ∧
        ∀ asked, again.tree.find? asked = first.tree.find? asked := by
  intro start same
  obtain ⟨snippet, taken, records, wrote⟩ := wrote_of_deliverAll returned
  have takenAgain := snippet_of_wrote taken wrote apart
  rw [← same] at takenAgain
  obtain ⟨others, again, outcome⟩ := deliverAll_of_unobstructed takenAgain (same ▸ wrote.allClear)
  obtain ⟨_, takenOnce, recordsAgain, wroteAgain⟩ := wrote_of_deliverAll outcome
  cases takenAgain.symm.trans takenOnce
  rw [same] at wroteAgain
  obtain rfl := eq_of_records records recordsAgain
  exact ⟨again, outcome, wrote.unchanged_of_again wroteAgain⟩

/-- A plain stylesheet that is overwritten by the theme settings is so again. -/
theorem deliverAll_again_colliding :
    ∃ files first, deliverAll atTemplates none colliding blankSession = .ok files first ∧
      ∃ again, deliverAll atTemplates none colliding first = .ok files again ∧
        ∀ asked, again.tree.find? asked = first.tree.find? asked := by
  have ends : (deliverAll atTemplates none colliding).Ends blankSession
      (fun _ _ => True) fun _ _ => False := by decide +kernel
  obtain ⟨files, first, returned, -⟩ := ends.returned
  have apart : ∀ directory, atTemplates.templates = some directory →
      (plainStylesheet.outputIn (ofLocation []) colliding).locationOf [] ≠
        (directory.entry Integration.templateName).locationOf [] := by
    intro directory same
    cases same
    decide +kernel
  exact ⟨files, first, returned, deliverAll_again returned apart first rfl⟩

/-- A config whose plain stylesheet is to go where the template of the snippet is. -/
def overTemplate : Config := tokenless Integration.templateName

/-- A run may write over the template of the snippet, and the next one then writes other
files. -/
theorem deliverAll_differs_again :
    (deliverAll atTemplates none overTemplate).Ends blankSession
      (fun files first => (deliverAll atTemplates none overTemplate).Ends first
        (fun others _ => others ≠ files) fun _ _ => False)
      fun _ _ => False := by
  decide +kernel

end DesignTokens.Artifact
