import DesignTokens.Proofs.Bundle.Inputs

/-!
# The course of a bundle

What a run has done when it comes to its end. A run that returns has made directories for the
copies, copied the stylesheets one after the other, written the combined stylesheet and cleared
that of the build tool away. A run that fails has gone a part of this way, and where it stopped
tells which part.
-/

namespace DesignTokens.Bundle

open FileTree DesignTokens.Path

variable {current : Location} {output copies : Path} {before after : FileTree}

/-- Stylesheets were copied one after the other, each with the content that it had then. -/
inductive CopiedInOrder (current : Location) (copies : Path) :
    List (Path × Bytes) -> FileTree -> FileTree -> Prop
  | nil (tree : FileTree) : CopiedInOrder current copies [] tree tree
  | cons {sheet : Path} {content : Bytes} {others : List (Path × Bytes)}
      {before middle after : FileTree} (first : Copied current copies sheet content before middle)
      (rest : CopiedInOrder current copies others middle after) :
      CopiedInOrder current copies ((sheet, content) :: others) before after

namespace CopiedInOrder

variable {copied : List (Path × Bytes)} {asked : Location}

/-- Every directory is still there. -/
theorem keeps_directory (inOrder : CopiedInOrder current copies copied before after)
    (found : before.find? asked = some .directory) : after.find? asked = some .directory := by
  induction inOrder with
  | nil => exact found
  | cons first _ ih => exact ih (first.placed.keeps_directory found)

/-- No stylesheet was copied to where it stands. -/
theorem away (inOrder : CopiedInOrder current copies copied before after) :
    ∀ copy ∈ copied,
      (copies.entry copy.1.name).locationOf current ≠ copy.1.locationOf current := by
  induction inOrder with
  | nil => exact List.forall_mem_nil _
  | cons first _ ih => exact List.forall_mem_cons.mpr ⟨first.away, ih⟩

/-- What is none of the copies is as it was, and the copies are files. -/
theorem unchanged_or (inOrder : CopiedInOrder current copies copied before after)
    (asked : Location) :
    after.find? asked = before.find? asked ∨
      ∃ copy ∈ copied, asked = (copies.entry copy.1.name).locationOf current ∧
        ∃ content, after.find? asked = some (.file content) := by
  induction inOrder with
  | nil => exact .inl rfl
  | @cons sheet content others before middle after first rest ih =>
      rcases ih with same | ⟨copy, member, here, file⟩
      · rw [same, first.placed.found]
        split
        next here => exact .inr ⟨_, List.mem_cons_self, here, content, rfl⟩
        next => exact .inl rfl
      · exact .inr ⟨copy, List.mem_cons_of_mem _ member, here, file⟩

/-- What is none of the copies is as it was. -/
theorem find?_eq (inOrder : CopiedInOrder current copies copied before after)
    (elsewhere : ∀ copy ∈ copied, asked ≠ (copies.entry copy.1.name).locationOf current) :
    after.find? asked = before.find? asked := by
  refine (inOrder.unchanged_or asked).resolve_right ?_
  rintro ⟨copy, member, here, -⟩
  exact elsewhere copy member here

/-- A copy reads as the stylesheet that was copied there last. -/
theorem readFile_of_last {done rest : List (Path × Bytes)} {last : Path × Bytes}
    (inOrder : CopiedInOrder current copies (done ++ last :: rest) before after)
    (alone : ∀ later ∈ rest, (copies.entry last.1.name).locationOf current ≠
      (copies.entry later.1.name).locationOf current) :
    after.readFile current (copies.entry last.1.name) = .ok last.2 := by
  induction done generalizing before with
  | nil =>
      cases inOrder with
      | cons first others =>
          exact readFile_of_kept first.placed.readFile (fun _ => others.keeps_directory)
            (others.find?_eq alone)
  | cons earlier done ih =>
      cases inOrder with
      | cons _ others => exact ih others

end CopiedInOrder

/-- A text is the section of a stylesheet with a content. -/
def IsSection (copy : Path × Bytes) (part : Text) : Prop :=
  ∃ spelled, fileText copy.2 = .ok spelled ∧ part = sectionText copy.1.name spelled

/-- Stylesheets are copied one after the other and yield their targets with their sections,
up to one that fails. -/
theorem copySheets_ends (setting : Setting) (copies : Path) (sheets : List Path)
    (session : Session) :
    (sheets.mapM (copySheet setting copies)).Ends session
      (fun yielded after => ∃ copied, copied.map Prod.fst = sheets ∧
        CopiedInOrder setting.current copies copied session.tree after.tree ∧
        yielded.map Prod.fst = sheets.map (fun sheet => copies.entry sheet.name) ∧
        List.Forall₂ IsSection copied (yielded.map Prod.snd))
      fun _ after => ∃ copied rest, copied.map Prod.fst ++ rest = sheets ∧
        CopiedInOrder setting.current copies copied session.tree after.tree := by
  induction sheets generalizing session with
  | nil => exact ⟨[], rfl, .nil session.tree, rfl, .nil⟩
  | cons sheet others ih =>
      rw [List.mapM_cons]
      refine ((copySheet_ends setting copies sheet session).imp (fun _ _ => id)
        fun _ after stopped => ?_).bind fun first middle copiedFirst => ?_
      · rcases stopped with same | ⟨content, copiedFirst, -⟩
        · rw [same]
          exact ⟨[], sheet :: others, rfl, .nil session.tree⟩
        · exact ⟨[(sheet, content)], others, rfl, .cons copiedFirst (.nil after.tree)⟩
      · obtain ⟨content, spelled, copiedFirst, decoded, rfl⟩ := copiedFirst
        refine ((ih middle).imp (fun _ _ => id) fun _ after stopped => ?_).bind
          fun yielded after gathered => Action.ends_pure ?_
        · obtain ⟨copied, rest, rfl, inOrder⟩ := stopped
          exact ⟨(sheet, content) :: copied, rest, rfl, .cons copiedFirst inOrder⟩
        · obtain ⟨copied, rfl, inOrder, targets, sections⟩ := gathered
          exact ⟨(sheet, content) :: copied, rfl, .cons copiedFirst inOrder, by simp [targets],
            .cons ⟨spelled, decoded, rfl⟩ sections⟩

/-- Directories were made on the way to the copies, and stylesheets were copied in order. -/
def Gathered (current : Location) (output : Path) (copied : List (Path × Bytes))
    (before after : FileTree) : Prop :=
  ∃ grown, GrownAt ((output.entry copiesName).through current) before grown ∧
    CopiedInOrder current (output.entry copiesName) copied grown after

/-- Behind the copies, the combined stylesheet was written with the sections of all. -/
structure Combined (current : Location) (output : Path) (copied : List (Path × Bytes))
    (before middle after : FileTree) : Prop where
  gathered : Gathered current output copied before middle
  directory : middle.HasDirectory current (output.entry copiesName)
  written : ∃ parts content, List.Forall₂ IsSection copied parts ∧
    Utf8.encode (List.intercalate (text "\n") parts) = .ok content ∧
    Placed current (output.entry combinedName) content middle after

/-- How far a run has come that failed before all was written. -/
inductive Unfinished (current : Location) (output : Path) (ordered : List Path)
    (before after : FileTree) : Failure -> Prop
  /-- The combined stylesheet was not written. -/
  | copying {copied : List (Path × Bytes)} {rest : List Path} {failure : Failure}
      (part : copied.map Prod.fst ++ rest = ordered)
      (gathered : Gathered current output copied before after) :
      Unfinished current output ordered before after failure
  /-- The combined stylesheet has no encoding and is left empty. -/
  | combining {copied : List (Path × Bytes)} {parts : List Text} {middle : FileTree}
      {fault : Utf8.EncodeFault} (whole : copied.map Prod.fst = ordered)
      (gathered : Gathered current output copied before middle)
      (sections : List.Forall₂ IsSection copied parts)
      (unencoded : Utf8.encode (List.intercalate (text "\n") parts) = .error fault)
      (emptied : Placed current (output.entry combinedName) [] middle after) :
      Unfinished current output ordered before after (.unencodable fault)

/-- What a run does behind its scan and before it clears the stylesheet of the build tool
away, given the stylesheets in their order. It yields the copies. -/
def writeAll (setting : Setting) (output : Path) (ordered : List Path) : Action (List Path) := do
  let copies := output.entry copiesName
  Action.extend fun tree => tree.createDirectories setting.current copies
  let copied <- ordered.mapM (copySheet setting copies)
  let combined := output.entry combinedName
  writeCombined setting combined (copied.map Prod.snd)
  Action.record (.stylesheetsBundled copied.length combined)
  return copied.map Prod.fst

/-- All is written, or the run fails on the way. -/
theorem writeAll_ends (setting : Setting) (output : Path) (ordered : List Path)
    (session : Session) :
    (writeAll setting output ordered).Ends session
      (fun targets after => ∃ copied middle, copied.map Prod.fst = ordered ∧
        targets = ordered.map (fun sheet => target output sheet.name) ∧
        Combined setting.current output copied session.tree middle after.tree)
      fun failure after =>
        Unfinished setting.current output ordered session.tree after.tree failure := by
  have grew := grownAt_createDirectories session.tree setting.current (output.entry copiesName)
  unfold writeAll
  refine Action.ends_bind.mpr (Action.ends_extend (fun grown made => ?_) fun _ grown refused => ?_)
  · have there := hasDirectory_of_createDirectories made
    rw [made] at grew
    refine ((copySheets_ends setting _ ordered _).imp (fun _ _ => id)
      fun _ after stopped => ?_).bind fun yielded gathered copies => ?_
    · obtain ⟨copied, rest, part, inOrder⟩ := stopped
      exact .copying part ⟨grown, grew, inOrder⟩
    obtain ⟨copied, whole, inOrder, targets, sections⟩ := copies
    have directory : gathered.tree.HasDirectory setting.current (output.entry copiesName) :=
      ⟨there.1, fun asked member => inOrder.keeps_directory (there.2 asked member)⟩
    refine ((writeCombined_ends setting _ _ gathered).imp (fun _ _ => id)
      fun _ after stopped => ?_).bind fun _ written combined => ?_
    · rcases stopped with same | ⟨fault, unencoded, rfl, emptied⟩
      · rw [← same] at inOrder
        exact .copying (by rw [whole, List.append_nil]) ⟨grown, grew, inOrder⟩
      · exact .combining whole ⟨grown, grew, inOrder⟩ sections unencoded emptied
    obtain ⟨content, encoding, placed⟩ := combined
    refine Action.ends_bind.mpr (Action.ends_record (Action.ends_pure ?_))
    exact ⟨copied, gathered.tree, whole, targets, ⟨grown, grew, inOrder⟩, directory, _, content,
      sections, encoding, placed⟩
  · rw [refused] at grew
    exact .copying (List.nil_append ordered) ⟨grown, grew, .nil grown⟩

/-- What a run does behind its scan, given the stylesheets in their order. -/
def assemble (setting : Setting) (output : Path) (ordered : List Path) : Action Bundle := do
  let copied <- writeAll setting output ordered
  let removed <- removeStale setting (target output staleName) copied
  return ⟨copied, some (output.entry combinedName), removed⟩

/-- What was assembled, given the stylesheets in their order. -/
structure Assembled (current : Location) (output : Path) (ordered : List Path) (bundle : Bundle)
    (copied : List (Path × Bytes)) (before middle written after : FileTree) : Prop where
  whole : copied.map Prod.fst = ordered
  targets : bundle.copied = ordered.map fun sheet => target output sheet.name
  path : bundle.combined = some (output.entry combinedName)
  combined : Combined current output copied before middle written
  cleared : Cleared current (target output staleName) bundle.copied written after bundle.removed

/-- Where a run has failed behind its scan, given the stylesheets in their order. -/
inductive Stopped (setting : Setting) (output : Path) (ordered : List Path) (session : Session)
    (failure : Failure) (ended : Session) : Prop
  /-- Not all was written. -/
  | writing (failed : writeAll setting output ordered session = .error failure ended)
      (unfinished :
        Unfinished setting.current output ordered session.tree ended.tree failure) :
      Stopped setting output ordered session failure ended
  /-- All is written, and the stylesheet of the build tool cannot be cleared away. -/
  | clearing {copied : List (Path × Bytes)} {targets : List Path} {middle : FileTree}
      {written : Session} (wrote : writeAll setting output ordered session = .ok targets written)
      (refused : removeStale setting (target output staleName) targets written =
        .error failure ended)
      (whole : copied.map Prod.fst = ordered)
      (combined : Combined setting.current output copied session.tree middle written.tree)
      (same : ended.tree = written.tree) :
      Stopped setting output ordered session failure ended

/-- Everything is assembled, or the run is stopped somewhere. -/
theorem assemble_ends (setting : Setting) (output : Path) (ordered : List Path)
    (session : Session) :
    (assemble setting output ordered).Ends session
      (fun bundle after => ∃ copied middle written, Assembled setting.current output ordered bundle
        copied session.tree middle written after.tree)
      (Stopped setting output ordered session) := by
  unfold assemble
  refine ((writeAll_ends setting output ordered session).recorded.imp (fun _ _ => id)
    fun _ _ stopped => .writing stopped.1 stopped.2).bind fun targets written wrote => ?_
  obtain ⟨wrote, copied, middle, whole, same, combined⟩ := wrote
  refine ((removeStale_ends setting (target output staleName) targets written).recorded.imp
    (fun _ _ => id) fun _ _ stopped => .clearing wrote stopped.1 whole combined stopped.2).bind
    fun removed after ended => Action.ends_pure ?_
  exact ⟨copied, middle, written.tree, whole, same, rfl, combined, ended.2⟩

/-- A run assembles what its scan has found, if that is anything. -/
theorem run_eq (setting : Setting) (source output : Path) :
    run setting source output = (do
      let sheets <- Action.look fun tree => tree.findStylesheets setting.current source
      if sheets.isEmpty then
        Action.record (.noStylesheets source)
        return ⟨[], none, []⟩
      else assemble setting output (Stylesheet.inOrder sheets)) := by
  simp only [run, assemble, writeAll, bind_assoc, pure_bind]
  rfl

variable {setting : Setting} {session : Session} {source : Path} {sheets : List Path}

/-- A run that has found stylesheets assembles them in the order of a bundle. -/
theorem run_of_found (found : session.tree.findStylesheets setting.current source = .ok sheets)
    (present : sheets ≠ []) :
    run setting source output session =
      assemble setting output (Stylesheet.inOrder sheets) session := by
  have scanned : (Action.look fun tree => tree.findStylesheets setting.current source) session =
      .ok sheets session := by
    simp only [Action.look, found]
  have some : sheets.isEmpty = false := by simpa using present
  rw [run_eq]
  show EStateM.bind _ _ session = _
  simp only [EStateM.bind, scanned, some]
  rfl

/-- A run that finds no stylesheets does nothing; any other assembles what it has found, up to
where it is stopped. A scan that is refused changes nothing. -/
theorem run_ends (setting : Setting) (source output : Path) (session : Session) :
    (run setting source output).Ends session
      (fun bundle after => ∃ sheets,
        session.tree.findStylesheets setting.current source = .ok sheets ∧
        (sheets = [] ∧ bundle = ⟨[], none, []⟩ ∧ after.tree = session.tree ∨
          sheets ≠ [] ∧ ∃ copied middle written, Assembled setting.current output
            (Stylesheet.inOrder sheets) bundle copied session.tree middle written after.tree))
      fun failure after =>
        (∃ fault, session.tree.findStylesheets setting.current source = .error fault ∧
          after.tree = session.tree) ∨
        ∃ sheets, session.tree.findStylesheets setting.current source = .ok sheets ∧
          sheets ≠ [] ∧
          Stopped setting output (Stylesheet.inOrder sheets) session failure after := by
  rw [run_eq]
  refine Action.ends_bind.mpr (Action.ends_look (fun sheets found => ?_) fun fault refused => ?_)
  · split
    next none =>
      refine Action.ends_bind.mpr (Action.ends_record (Action.ends_pure ?_))
      exact ⟨sheets, found, .inl ⟨List.isEmpty_iff.mp none, rfl, rfl⟩⟩
    next some =>
      have present : sheets ≠ [] := fun none => some (List.isEmpty_iff.mpr none)
      exact (assemble_ends setting output (Stylesheet.inOrder sheets) session).imp
        (fun _ _ assembled => ⟨sheets, found, .inr ⟨present, assembled⟩⟩)
        fun _ _ stopped => .inr ⟨sheets, found, present, stopped⟩
  · exact .inl ⟨fault, refused, rfl⟩

end DesignTokens.Bundle
