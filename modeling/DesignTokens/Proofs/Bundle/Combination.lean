import DesignTokens.Proofs.Bundle.Course
import Mathlib.Data.List.Forall2

/-!
# What the combined stylesheet holds

One section for every stylesheet that was found, in the order of a bundle, with the text that
the stylesheet had before the run. The copies are written while the stylesheets are read, but a
stylesheet that another one is copied onto would have to be copied onto itself, and that ends
the run. So whatever is read in a run that returns was there before it.
-/

namespace DesignTokens.Bundle

open FileTree DesignTokens.Path

variable {current : Location} {output : Path} {copied : List (Path × Bytes)}
  {tree before middle after : FileTree}

/-- Every stylesheet that was copied had its content before the first one was. -/
theorem CopiedInOrder.find?_before
    (inOrder : CopiedInOrder current (output.entry copiesName) copied before after)
    (stand : ∀ copy ∈ copied, ∃ content, tree.HasStylesheet current copy.1 content) :
    ∀ copy ∈ copied, before.find? (copy.1.locationOf current) = some (.file copy.2) := by
  induction inOrder with
  | nil => exact List.forall_mem_nil _
  | @cons sheet content others before middle after first rest ih =>
      obtain ⟨⟨_, firstStands⟩, othersStand⟩ := List.forall_mem_cons.mp stand
      refine List.forall_mem_cons.mpr ⟨(readFile_eq_ok_iff.mp first.read).2, ?_⟩
      intro copy member
      obtain ⟨_, stands⟩ := othersStand copy member
      have elsewhere : copy.1.locationOf current ≠
          ((output.entry copiesName).entry sheet.name).locationOf current := by
        intro here
        have names := name_eq_of_target_eq output stands firstStands.named here.symm
        exact rest.away copy member (names ▸ here.symm)
      have later := ih othersStand copy member
      rwa [first.placed.found, if_neg elsewhere] at later

/-- Every stylesheet that was copied had its content before the run. -/
theorem Gathered.find?_before (gathered : Gathered current output copied before after)
    (stand : ∀ copy ∈ copied, ∃ content, tree.HasStylesheet current copy.1 content) :
    ∀ copy ∈ copied, before.find? (copy.1.locationOf current) = some (.file copy.2) := by
  obtain ⟨grown, grew, inOrder⟩ := gathered
  exact fun copy member => grew.file_iff.mp (inOrder.find?_before stand copy member)

/-- A text is the section of a stylesheet: its name in a comment on the first line, then the
text that it has in a tree, with every line ending a line feed, and another line feed. -/
def SectionIn (tree : FileTree) (current : Location) (sheet : Path) (part : Text) : Prop :=
  ∃ content decoded, tree.find? (sheet.locationOf current) = some (.file content) ∧
    Utf8.decode content = .ok decoded ∧
    part = text "/* === " ++ sheet.name ++ text " === */\n" ++ decoded.unifyNewlines ++ text "\n"

/-- The combined stylesheet that a run leaves is the encoding of the sections of all
stylesheets as they were before it, in the order of a bundle, joined by line feeds. -/
def HoldsSections (current : Location) (output : Path) (sheets : List Path)
    (before after : FileTree) : Prop :=
  ∃ parts content, List.Forall₂ (SectionIn before current) (Stylesheet.inOrder sheets) parts ∧
    Utf8.encode (List.intercalate (text "\n") parts) = .ok content ∧
    after.readFile current (output.entry combinedName) = .ok content

/-- The sections that were yielded are those of the stylesheets as they were before. -/
theorem sections_before {parts : List Text}
    (found : ∀ copy ∈ copied, before.find? (copy.1.locationOf current) = some (.file copy.2))
    (sections : List.Forall₂ IsSection copied parts) :
    List.Forall₂ (SectionIn before current) (copied.map Prod.fst) parts := by
  rw [List.forall₂_map_left_iff]
  refine ((List.forall₂_and_left _ _).mpr ⟨found, sections⟩).imp ?_
  rintro ⟨sheet, content⟩ part ⟨here, spelled, decodes, rfl⟩
  unfold fileText at decodes
  split at decodes
  next decoded decoding =>
    cases decodes
    exact ⟨content, decoded, here, decoding, rfl⟩
  next => cases decodes

variable {sheets : List Path} {name : Text}

/-- A copy stands in the directory of the copies, under the name of its stylesheet. -/
theorem locationOf_target (output : Path) (current : Location)
    (named : isStylesheetName name = true) :
    (target output name).locationOf current = output.locationOf current ++ [copiesName, name] := by
  have plain : Plain copiesName := by decide
  rw [target, locationOf_entry, locationOf_entry, advance_of_isStylesheetName named,
    advance_of_plain _ plain, List.append_assoc]
  rfl

/-- The combined stylesheet stands beside the directory of the copies. -/
theorem locationOf_combined (output : Path) (current : Location) :
    (output.entry combinedName).locationOf current = output.locationOf current ++ [combinedName] := by
  have named : isStylesheetName combinedName = true := by decide
  rw [locationOf_entry, advance_of_isStylesheetName named]

/-- No copy goes where the combined stylesheet goes. -/
theorem target_ne_combined (output : Path) (current : Location)
    (named : isStylesheetName name = true) :
    (target output name).locationOf current ≠ (output.entry combinedName).locationOf current := by
  intro same
  rw [locationOf_target output current named, locationOf_combined] at same
  simp at same

/-- The name of the stylesheet of the build tool is that of a stylesheet. -/
theorem isStylesheetName_stale : isStylesheetName staleName = true := by decide

/-- What is written behind the copies holds the sections of all stylesheets. -/
theorem Combined.holdsSections (combined : Combined current output copied before middle after)
    (whole : copied.map Prod.fst = Stylesheet.inOrder sheets)
    (stand : ∀ sheet ∈ sheets, ∃ content, before.HasStylesheet current sheet content) :
    HoldsSections current output sheets before after := by
  obtain ⟨parts, content, sections, encoding, placed⟩ := combined.written
  have found := combined.gathered.find?_before fun copy member =>
    stand copy.1 (mem_inOrder.mp (whole ▸ List.mem_map_of_mem member))
  exact ⟨parts, content, whole ▸ sections_before found sections, encoding, placed.readFile⟩

/-- To clear the stylesheet of the build tool away leaves the combined one as it is. -/
theorem Cleared.holdsSections {copies removed : List Path}
    (cleared : Cleared current (target output staleName) copies middle after removed)
    (holds : HoldsSections current output sheets before middle) :
    HoldsSections current output sheets before after := by
  obtain ⟨parts, content, sections, encoding, read⟩ := holds
  refine ⟨parts, content, sections, encoding, ?_⟩
  exact readFile_of_kept read (fun _ => cleared.keeps_directory)
    (cleared.find?_eq (target_ne_combined output current isStylesheetName_stale).symm)

variable {setting : Setting} {session ended : Session} {source : Path} {bundle : Bundle}

/-- What was assembled holds the sections of the stylesheets as they were. -/
theorem Assembled.holdsSections {written : FileTree}
    (assembled : Assembled current output (Stylesheet.inOrder sheets) bundle copied before middle
      written after)
    (stand : ∀ sheet ∈ sheets, ∃ content, before.HasStylesheet current sheet content) :
    HoldsSections current output sheets before after :=
  assembled.cleared.holdsSections (assembled.combined.holdsSections assembled.whole stand)

/-- A run that returns and has found a stylesheet leaves a combined one with a section for each
stylesheet that it found, in the order of a bundle, and with the text that the stylesheet had
before the run, wherever the output goes. -/
theorem run_combines
    (found : session.tree.findStylesheets setting.current source = .ok sheets)
    (present : sheets ≠ []) (returned : run setting source output session = .ok bundle ended) :
    bundle.combined = some (output.entry combinedName) ∧
      HoldsSections setting.current output sheets session.tree ended.tree := by
  obtain ⟨listed, scanned, outcome⟩ :=
    (run_ends setting source output session).of_returned returned
  obtain rfl : sheets = listed := Except.ok.inj (found.symm.trans scanned)
  rcases outcome with ⟨none, -⟩ | ⟨-, copied, middle, written, assembled⟩
  · exact absurd none present
  · have holds := assembled.combined.holdsSections assembled.whole fun _ =>
      hasStylesheet_of_mem_findStylesheets found
    exact ⟨assembled.path, assembled.cleared.holdsSections holds⟩

/-- A component is bundled together with the combined stylesheet of an earlier run, which is
among what the scan finds and is written anew. -/
theorem run_combines_overlapping :
    let session := sessionWith [([text "b.css"], [0x61, 0x0D]),
      ([text "dist", text "styles.css"], [0x62])]
    let sheets := [ofText (text "b.css"), ofText (text "dist/styles.css")]
    session.tree.findStylesheets [] (ofText (text ".")) = .ok sheets ∧ sheets ≠ [] ∧
      ∃ bundle ended,
        run ⟨[], none⟩ (ofText (text ".")) (ofText (text "dist")) session = .ok bundle ended ∧
        bundle.combined = some (ofText (text "dist/styles.css")) ∧
        HoldsSections [] (ofText (text "dist")) sheets session.tree ended.tree := by
  intro session sheets
  have visited : session.tree.visitsBelow [] =
      [.seen [text "b.css"] (.file [0x61, 0x0D]), .entered [text "dist"],
        .seen [text "dist", text "styles.css"] (.file [0x62])] :=
    (List.mergeSort_of_pairwise (by decide +kernel)).trans (by decide +kernel)
  have found : session.tree.findStylesheets [] (ofText (text ".")) = .ok sheets :=
    findStylesheets_of_visitsBelow (by decide +kernel) (by decide +kernel) visited
      (by decide +kernel)
  have present : sheets ≠ [] := List.cons_ne_nil _ _
  have order : Stylesheet.inOrder sheets = sheets :=
    List.mergeSort_of_pairwise (by decide +kernel)
  have ends : (assemble ⟨[], none⟩ (ofText (text "dist")) sheets).Ends session
      (fun _ _ => True) fun _ _ => False := by decide +kernel
  obtain ⟨bundle, ended, assembled, -⟩ := ends.returned
  have returned : run ⟨[], none⟩ (ofText (text ".")) (ofText (text "dist")) session =
      .ok bundle ended := by
    rw [run_of_found found present, order, assembled]
  exact ⟨found, present, bundle, ended, returned, run_combines found present returned⟩

end DesignTokens.Bundle
