import DesignTokens.Proofs.Bundle.InPlace
import DesignTokens.Proofs.FileTree.ScanOrder

/-!
# Bundling again

A run whose output goes neither to where the stylesheets are looked for nor below leaves them as
they were, and puts its bundle in place. So another run finds the same stylesheets, returns the
same, removes nothing and changes nothing. New directories that the output is spelled through are
all that may be different among the stylesheets, and all that may keep the other run from them.
-/

namespace DesignTokens.Bundle

open FileTree DesignTokens.Path

variable {current : Location} {output sheet source : Path} {sheets : List Path} {bundle : Bundle}
  {copied : List (Path × Bytes)} {tree before middle written after : FileTree} {asked : Location}

/-- The section of a stylesheet is the same in trees where the stylesheet is. -/
theorem SectionIn.congr {part : Text} (isSection : SectionIn before current sheet part)
    (same : after.find? (sheet.locationOf current) = before.find? (sheet.locationOf current)) :
    SectionIn after current sheet part := by
  obtain ⟨content, decoded, found, rest⟩ := isSection
  exact ⟨content, decoded, same.trans found, rest⟩

/-- Whether the combined stylesheet holds the sections of stylesheets depends on them alone. -/
theorem HoldsSections.congr (holds : HoldsSections current output sheets before tree)
    (same : ∀ sheet ∈ sheets,
      after.find? (sheet.locationOf current) = before.find? (sheet.locationOf current)) :
    HoldsSections current output sheets after tree := by
  obtain ⟨parts, content, sections, rest⟩ := holds
  refine ⟨parts, content, ?_, rest⟩
  have kept : ∀ sheet ∈ Stylesheet.inOrder sheets,
      after.find? (sheet.locationOf current) = before.find? (sheet.locationOf current) :=
    fun sheet member => same sheet (mem_inOrder.mp member)
  exact ((List.forall₂_and_left _ _).mpr ⟨kept, sections⟩).imp
    fun _ _ ⟨same, isSection⟩ => isSection.congr same

/-- Whether a copy is that of stylesheets depends on them alone. -/
theorem HasCopy.congr (copy : HasCopy current output sheets before tree sheet)
    (same : ∀ sheet ∈ sheets,
      after.find? (sheet.locationOf current) = before.find? (sheet.locationOf current)) :
    HasCopy current output sheets after tree sheet := by
  obtain ⟨last, content, isLast, named, found, read⟩ := copy
  have member : last ∈ sheets := by
    obtain ⟨done, rest, split, -⟩ := isLast
    exact mem_inOrder.mp (by simp [split])
  exact ⟨last, content, isLast, named, (same last member).trans found, read⟩

/-- Every stylesheet that was copied still has its place. -/
theorem CopiedInOrder.locate_eq {copies : Path}
    (inOrder : CopiedInOrder current copies copied before after) :
    ∀ copy ∈ copied, after.locate current copy.1 = .ok (copy.1.locationOf current) := by
  induction inOrder with
  | nil => exact List.forall_mem_nil _
  | cons first rest ih =>
      refine List.forall_mem_cons.mpr ⟨?_, ih⟩
      have located := (readFile_eq_ok_iff.mp first.read).1
      exact locate_of_directories located fun asked above => rest.keeps_directory
        (first.placed.keeps_directory ((locate_eq_ok_iff.mp located).2.1 asked above))

/-- Behind the copies, every directory is still there. -/
theorem Combined.keeps_directory
    (combined : Combined current output copied before middle written)
    (found : middle.find? asked = some .directory) : written.find? asked = some .directory := by
  obtain ⟨-, -, parts, content, -, -, placed⟩ := combined
  exact placed.keeps_directory found

namespace Assembled

/-- Every directory is still there. -/
theorem keeps_directory
    (assembled : Assembled current output (Stylesheet.inOrder sheets) bundle copied before middle
      written after)
    (found : before.find? asked = some .directory) : after.find? asked = some .directory := by
  obtain ⟨grown, grew, inOrder⟩ := assembled.combined.gathered
  exact assembled.cleared.keeps_directory
    (assembled.combined.keeps_directory (inOrder.keeps_directory (grew.kept found)))

/-- What was assembled is in place if the stylesheets are as they were. -/
theorem inPlace
    (assembled : Assembled current output (Stylesheet.inOrder sheets) bundle copied before middle
      written after)
    (stand : ∀ sheet ∈ sheets, ∃ content, before.HasStylesheet current sheet content)
    (same : ∀ sheet ∈ sheets,
      after.find? (sheet.locationOf current) = before.find? (sheet.locationOf current))
    (fits : pathTooLong (target output staleName) = false) :
    InPlace current output sheets after where
  directory := by
    obtain ⟨followable, directories⟩ := assembled.combined.keeps_copies
    exact ⟨followable, fun asked member =>
      assembled.cleared.keeps_directory (directories asked member)⟩
  legible sheet member := by
    obtain ⟨grown, -, inOrder⟩ := assembled.combined.gathered
    obtain ⟨copy, among, rfl⟩ := exists_copy assembled.whole member
    have located := locate_of_directories (inOrder.locate_eq copy among) fun asked above =>
      assembled.cleared.keeps_directory (assembled.combined.keeps_directory
        ((locate_eq_ok_iff.mp (inOrder.locate_eq copy among)).2.1 asked above))
    obtain ⟨content, stands⟩ := stand copy.1 member
    exact ⟨content, readFile_eq_ok_iff.mpr ⟨located, (same _ member).trans stands.found⟩⟩
  away sheet member := by
    obtain ⟨grown, -, inOrder⟩ := assembled.combined.gathered
    obtain ⟨copy, among, rfl⟩ := exists_copy assembled.whole member
    exact (inOrder.away copy among).symm
  copies sheet member := (assembled.hasCopy stand member).congr same
  combined := (assembled.holdsSections stand).congr same
  fits := fits
  settled := (assembled.staleSettled stand).standing.mp

end Assembled

namespace InPlace

/-- To assemble what is in place changes nothing. -/
theorem unchanged (inPlace : InPlace current output sheets before)
    (stand : ∀ sheet ∈ sheets, ∃ content, before.HasStylesheet current sheet content)
    (assembled : Assembled current output (Stylesheet.inOrder sheets) bundle copied before middle
      written after) (asked : Location) : after.find? asked = before.find? asked := by
  cases assembled.footprint asked with
  | unchanged same => exact same
  | directory onTheWay nothing => cases nothing.symm.trans (inPlace.directory.2 asked onTheWay)
  | copy sheet member here =>
      rw [here]
      exact (inPlace.copies sheet member).unique (assembled.hasCopy stand member)
  | combined here =>
      rw [here]
      exact inPlace.combined.unique (assembled.holdsSections stand)
  | cleared here gone =>
      rw [gone, eq_comm]
      by_contra stood
      exact (assembled.staleSettled stand).standing.mpr (inPlace.settled (here ▸ stood))
        (here ▸ gone)

/-- Nothing is removed. -/
theorem removed_eq_nil (inPlace : InPlace current output sheets before)
    (stand : ∀ sheet ∈ sheets, ∃ content, before.HasStylesheet current sheet content)
    (assembled : Assembled current output (Stylesheet.inOrder sheets) bundle copied before middle
      written after) : bundle.removed = [] := by
  have settled := (assembled.staleSettled stand).removed
  have cleared := assembled.cleared
  generalize bundle.removed = removed at settled cleared
  cases cleared with
  | spared => rfl
  | removed =>
      obtain ⟨stood, others⟩ := settled.mp rfl
      obtain ⟨sheet, member, name⟩ := inPlace.settled stood
      exact absurd name (others sheet member)

variable {setting : Setting} {session : Session}

/-- A run for a bundle that is in place returns, removes nothing and changes nothing. -/
theorem run (inPlace : InPlace setting.current output sheets session.tree)
    (found : session.tree.findStylesheets setting.current source = .ok sheets)
    (present : sheets ≠ []) :
    (Bundle.run setting source output).Ends session
      (fun again last =>
        again = ⟨(Stylesheet.inOrder sheets).map fun sheet => target output sheet.name,
          some (output.entry combinedName), []⟩ ∧
        ∀ asked, last.tree.find? asked = session.tree.find? asked)
      fun _ _ => False := by
  have stand : ∀ sheet ∈ sheets, ∃ content,
      session.tree.HasStylesheet setting.current sheet content :=
    fun _ => hasStylesheet_of_mem_findStylesheets found
  have assembles := (inPlace.assemble_returns stand).and
    (assemble_ends setting output (Stylesheet.inOrder sheets) session)
  unfold Action.Ends
  rw [run_of_found found present]
  refine assembles.imp ?_ fun _ _ failed => failed.1
  rintro again last ⟨-, copied, middle, written, assembled⟩
  refine ⟨?_, inPlace.unchanged stand assembled⟩
  rw [← assembled.targets, ← assembled.path, ← inPlace.removed_eq_nil stand assembled]

end InPlace

variable {setting : Setting} {session ended : Session}

/-- The path of the stylesheet of the build tool is not too long for a run that has asked for
it. -/
theorem removeStale_fits
    (there : session.tree.HasDirectory setting.current (output.entry copiesName))
    (targets : List Path) :
    (removeStale setting (target output staleName) targets).Ends session
      (fun _ _ => pathTooLong (target output staleName) = false) fun _ _ => True := by
  unfold removeStale
  refine Action.ends_bind.mpr (Action.ends_look (fun found looked => ?_) fun _ _ => trivial)
  have fits := pathTooLong_of_query_entry there (by simp [entry]) ⟨_, rfl⟩ looked
  split
  · refine Action.ends_bind.mpr (Action.ends_change (fun _ _ => ?_) fun _ _ => trivial)
    exact Action.ends_bind.mpr (Action.ends_record (Action.ends_pure fits))
  · exact Action.ends_pure fits

/-- A run that returns has asked for it. -/
theorem assemble_fits (setting : Setting) (output : Path) (ordered : List Path)
    (session : Session) :
    (assemble setting output ordered).Ends session
      (fun _ _ => pathTooLong (target output staleName) = false) fun _ _ => True := by
  unfold assemble
  refine ((writeAll_ends setting output ordered session).imp (fun _ _ => id)
    fun _ _ _ => trivial).bind fun targets written wrote => ?_
  obtain ⟨copied, middle, -, -, combined⟩ := wrote
  exact (removeStale_fits combined.keeps_copies targets).bind fun _ _ fits =>
    Action.ends_pure fits

/-- A directory stands where nothing stood, on the way to the copies. -/
structure NewDirectory (current : Location) (output : Path) (before after : FileTree)
    (asked : Location) : Prop where
  onTheWay : asked ∈ (output.entry copiesName).through current
  nothing : before.find? asked = none
  made : after.find? asked = some .directory

/-- What is assembled neither at a directory nor below it leaves everything there as it was, but
for new directories on the way to the copies. -/
theorem Assembled.unchanged_below
    (assembled : Assembled current output (Stylesheet.inOrder sheets) bundle copied before middle
      written after)
    (named : ∀ sheet ∈ sheets, isStylesheetName sheet.name = true) {location : Location}
    (directory : before.find? location = some .directory)
    (apart : ¬ location <+: (output.entry copiesName).locationOf current)
    (aside : ¬ location <+: (output.entry combinedName).locationOf current)
    (inside : location <+: asked) :
    after.find? asked = before.find? asked ∨ NewDirectory current output before after asked := by
  have kept := assembled.keeps_directory directory
  -- A copy may only stand where the directory itself stands, which is still there.
  have outside {name : Text} (isName : isStylesheetName name = true)
      (here : asked = (target output name).locationOf current) : location = asked := by
    rw [here, target, locationOf_entry, advance_of_isStylesheetName isName] at inside ⊢
    exact (List.prefix_concat_iff.mp inside).resolve_right apart
  cases assembled.footprint asked with
  | unchanged same => exact .inl same
  | directory onTheWay nothing made => exact .inr ⟨onTheWay, nothing, made⟩
  | copy sheet member here file =>
      obtain ⟨content, file⟩ := file
      obtain rfl := outside (named sheet member) here
      cases kept.symm.trans file
  | combined here => exact absurd (here ▸ inside) aside
  | cleared here gone =>
      obtain rfl := outside isStylesheetName_stale here
      cases kept.symm.trans gone

/-- A run that finds nothing returns nothing and changes nothing. -/
theorem run_of_nothing (found : session.tree.findStylesheets setting.current source = .ok []) :
    (run setting source output).Ends session
      (fun bundle after => bundle = ⟨[], none, []⟩ ∧ after.tree = session.tree)
      fun _ _ => False := by
  rw [run_eq]
  refine Action.ends_bind.mpr (Action.ends_look (fun sheets scanned => ?_) fun _ refused => ?_)
  · obtain rfl : [] = sheets := Except.ok.inj (found.symm.trans scanned)
    exact Action.ends_bind.mpr (Action.ends_record (Action.ends_pure ⟨rfl, rfl⟩))
  · cases found.symm.trans refused

/-- A run whose scan is refused fails with the refusal and changes nothing. -/
theorem run_of_refused {fault : AccessFault}
    (refused : session.tree.findStylesheets setting.current source = .error fault) :
    run setting source output session = .error (.access fault) session := by
  rw [run_eq]
  exact Action.bind_of_failed _ (by simp only [Action.look, refused])

/-- A run that returns, and whose output goes neither to where the stylesheets are looked for nor
below, leaves everything there as it was, but for new directories that the output is spelled
through. Another run behind it returns the same copies and the same combined stylesheet, removes
nothing and leaves everything as it is, unless one of the new directories is too far off to be
visited; then it is refused and changes nothing either. -/
theorem run_again (returned : run setting source output session = .ok bundle ended)
    (apart : ¬ source.locationOf setting.current <+:
      (output.entry copiesName).locationOf setting.current)
    (aside : ¬ source.locationOf setting.current <+:
      (output.entry combinedName).locationOf setting.current) :
    (∀ way, ended.tree.find? (source.locationOf setting.current ++ way) =
        session.tree.find? (source.locationOf setting.current ++ way) ∨
      NewDirectory setting.current output session.tree ended.tree
        (source.locationOf setting.current ++ way)) ∧
      ∀ start : Session, start.tree = ended.tree →
        (run setting source output).Ends start
          (fun again last => again = ⟨bundle.copied, bundle.combined, []⟩ ∧
            ∀ asked, last.tree.find? asked = ended.tree.find? asked)
          fun failure last => last.tree = ended.tree ∧ ∃ way,
            NewDirectory setting.current output session.tree ended.tree
              (source.locationOf setting.current ++ way) ∧
            pathTooLong (onward source way) = true ∧
            failure = .access (.system .nameTooLong (onward source way)) := by
  obtain ⟨sheets, found, outcome⟩ := (run_ends setting source output session).of_returned returned
  rcases outcome with ⟨rfl, rfl, same⟩ | ⟨present, copied, middle, written, assembled⟩
  · refine ⟨fun way => .inl (by rw [same]), fun start again => ?_⟩
    rw [← same, ← again] at found
    refine (run_of_nothing found).imp ?_ fun _ _ => False.elim
    rintro _ last ⟨rfl, unchanged⟩
    exact ⟨rfl, fun asked => by rw [unchanged, again]⟩
  · have stand : ∀ sheet ∈ sheets, ∃ content,
        session.tree.HasStylesheet setting.current sheet content :=
      fun _ => hasStylesheet_of_mem_findStylesheets found
    have scanned := scanned_of_findStylesheets found present
    have below {asked : Location} (inside : source.locationOf setting.current <+: asked) :=
      assembled.unchanged_below (named_of_stand stand) scanned.directory apart aside inside
    have kept : ∀ sheet ∈ sheets, ended.tree.find? (sheet.locationOf setting.current) =
        session.tree.find? (sheet.locationOf setting.current) := by
      intro sheet member
      obtain ⟨content, stands⟩ := stand sheet member
      refine (below (below_of_mem_findStylesheets found member)).resolve_right fun new => ?_
      cases new.nothing.symm.trans stands.found
    have fits := (assemble_fits setting output _ session).of_returned
      ((run_of_found found present).symm.trans returned)
    have inPlace := assembled.inPlace stand kept fits
    refine ⟨fun way => below (List.prefix_append _ way), fun start again => ?_⟩
    rw [← again] at inPlace
    rcases scanned.again (fun _ => assembled.keeps_directory) (fun way =>
        (below (List.prefix_append _ way)).imp_right fun new => ⟨new.nothing, new.made⟩) with
      refound | ⟨way, changed, long, refused⟩
    · rw [← again] at refound
      refine (inPlace.run refound present).imp ?_ fun _ _ => False.elim
      rintro _ last ⟨rfl, unchanged⟩
      rw [assembled.targets, assembled.path, ← again]
      exact ⟨rfl, unchanged⟩
    · rw [← again] at refused
      have new := (below (List.prefix_append _ way)).resolve_left changed
      exact Action.ends_of_failed (run_of_refused refused) ⟨again, way, new, long, rfl⟩

/-- Stylesheets that share a name are bundled twice with one result: the output is not spelled
through where they are looked for, so that nothing keeps the second run from them. -/
theorem run_again_sameNamed :
    let source := ofText (text "src")
    let output := ofText (text "dist")
    ∃ bundle ended, run ⟨[], none⟩ source output sameNamed = .ok bundle ended ∧
      ¬ source.locationOf [] <+: (output.entry copiesName).locationOf [] ∧
      ¬ source.locationOf [] <+: (output.entry combinedName).locationOf [] ∧
      (∀ way, ended.tree.find? (source.locationOf [] ++ way) =
        sameNamed.tree.find? (source.locationOf [] ++ way)) ∧
      ∀ start : Session, start.tree = ended.tree → ∃ last,
        run ⟨[], none⟩ source output start = .ok ⟨bundle.copied, bundle.combined, []⟩ last ∧
        ∀ asked, last.tree.find? asked = ended.tree.find? asked := by
  intro source output
  obtain ⟨bundle, ended, returned, -⟩ := run_sameNamed
  have apart : ¬ source.locationOf [] <+: (output.entry copiesName).locationOf [] := by
    decide +kernel
  have aside : ¬ source.locationOf [] <+: (output.entry combinedName).locationOf [] := by
    decide +kernel
  have outside (way : Location) :
      ¬ NewDirectory [] output sameNamed.tree ended.tree (source.locationOf [] ++ way) := by
    intro new
    have beside : ∀ asked ∈ (output.entry copiesName).through [],
        ¬ source.locationOf [] <+: asked := by decide +kernel
    exact beside _ new.onTheWay (List.prefix_append _ way)
  obtain ⟨unchanged, again⟩ := run_again returned apart aside
  refine ⟨bundle, ended, returned, apart, aside,
    fun way => (unchanged way).resolve_right (outside way), fun start same => ?_⟩
  have ends := (again start same).imp (fun _ _ => id) fun _ _ ⟨_, way, new, _⟩ => outside way new
  obtain ⟨_, last, returnedAgain, rfl, kept⟩ := ends.returned
  exact ⟨last, returnedAgain, kept⟩

/-- A run returns, with its output neither where the stylesheets are looked for nor below. -/
def ReturnsApart (source output : Path) (session : Session) (bundle : Bundle) (ended : Session) :
    Prop :=
  run ⟨[], none⟩ source output session = .ok bundle ended ∧
    ¬ source.locationOf [] <+: (output.entry copiesName).locationOf [] ∧
    ¬ source.locationOf [] <+: (output.entry combinedName).locationOf []

/-- A name of a length. -/
def nameOfLength (length : Nat) : Text :=
  List.replicate length (CodePoint.ofChar 'n')

/-- A long path to where stylesheets are looked for: again and again through another directory. -/
def detour : Path :=
  ⟨.relative, (List.replicate 16 [nameOfLength 250, up]).flatten ++ [text "src"]⟩

/-- An output that is spelled through a directory where stylesheets are looked for. -/
def spelledThrough (name : Text) : Path :=
  ⟨.relative, [text "src", name, up, up, text "dist"]⟩

/-- A stylesheet, and the directory that the long path leads through. -/
def besideDetour : Session :=
  sessionWith [([text "src", text "a.css"], [0x61]), ([nameOfLength 250, text "a"], [])]

/-- A run makes a directory where the stylesheets are looked for by the long path. -/
theorem run_besideDetour :
    ∃ bundle ended,
      run ⟨[], none⟩ detour (spelledThrough (nameOfLength 200)) besideDetour =
        .ok bundle ended ∧
      ended.tree.locate [] detour = .ok [text "src"] ∧
      ended.tree.find? [text "src"] = some .directory ∧
      ended.tree.find? ([text "src"] ++ [nameOfLength 200]) = some .directory := by
  apply Action.Ends.returned
  decide +kernel

/-- A run may make a directory where the stylesheets are looked for although its output goes
elsewhere. Another run is then refused if the way to that directory is too long. -/
theorem run_intrudes :
    (∃ session bundle ended,
      ReturnsApart (ofText (text "src")) (ofText (text "dist/../src/new/../../dist")) session
        bundle ended ∧
      ended.tree.find? [text "src", text "new"] ≠ session.tree.find? [text "src", text "new"]) ∧
      ∃ output session bundle ended, ReturnsApart detour output session bundle ended ∧
        ∃ failure last, run ⟨[], none⟩ detour output ended = .error failure last := by
  constructor
  · have returns : ∃ bundle ended,
        run ⟨[], none⟩ (ofText (text "src")) (ofText (text "dist/../src/new/../../dist"))
          (sessionWith [([text "src", text "a.css"], [0x61])]) = .ok bundle ended ∧
        ended.tree.find? [text "src", text "new"] = some .directory := by
      apply Action.Ends.returned
      decide +kernel
    obtain ⟨bundle, ended, returned, made⟩ := returns
    refine ⟨_, bundle, ended, ⟨returned, by decide +kernel, by decide +kernel⟩, ?_⟩
    rw [made]
    decide +kernel
  · obtain ⟨bundle, ended, returned, located, directory, made⟩ := run_besideDetour
    have visited : Visit.entered [nameOfLength 200] ∈
        Visit.ofItem [nameOfLength 200] .directory := by decide +kernel
    have member := mem_visitsBelow_iff.mpr ⟨_, _, List.cons_ne_nil _ _, made, visited⟩
    obtain ⟨refused, found⟩ :=
      findStylesheets_of_tooLong located directory member (by decide +kernel)
    exact ⟨_, _, bundle, ended, ⟨returned, by decide +kernel, by decide +kernel⟩,
      _, _, run_of_refused found⟩

end DesignTokens.Bundle
