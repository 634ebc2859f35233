import DesignTokens.Proofs.Bundle.Copies
import DesignTokens.Proofs.FileTree.Refusal

/-!
# Bundles that are in place

A bundle is in place when everything that a run would write is there and holds what the run
would write. Nothing then stands in the way of a run, so that it does not fail, and nothing is
different behind it.
-/

namespace DesignTokens

namespace FileTree

variable {current : Location} {path other : Path} {content : Bytes} {before after : FileTree}

/-- A file can be read at a path. -/
def Legible (tree : FileTree) (current : Location) (path : Path) : Prop :=
  ∃ content, tree.readFile current path = .ok content

/-- What can be read can be written anew. -/
theorem Legible.writeFile (legible : before.Legible current path) (content : Bytes) :
    ∃ after, before.writeFile current path content = .ok after := by
  obtain ⟨held, read⟩ := legible
  obtain ⟨located, file⟩ := readFile_eq_ok_iff.mp read
  refine ⟨before.place (path.locationOf current) (.file content), ?_⟩
  simp [FileTree.writeFile, located, file, bind, Except.bind]

/-- What can be read still can when a file was put somewhere. -/
theorem Legible.placed (legible : before.Legible current path)
    (placed : Placed current other content before after) : after.Legible current path := by
  obtain ⟨held, read⟩ := legible
  by_cases here : path.locationOf current = other.locationOf current
  · obtain ⟨located, -⟩ := readFile_eq_ok_iff.mp read
    refine ⟨content, readFile_eq_ok_iff.mpr ⟨?_, by rw [placed.found, if_pos here]⟩⟩
    exact locate_of_directories located fun asked above =>
      placed.keeps_directory ((locate_eq_ok_iff.mp located).2.1 asked above)
  · refine ⟨held, readFile_of_kept read (fun _ => placed.keeps_directory) ?_⟩
    rw [placed.found, if_neg here]

end FileTree

namespace Bundle

open FileTree DesignTokens.Path

variable {current : Location} {output sheet : Path} {sheets : List Path} {content : Bytes}
  {tree before after : FileTree}

/-- What a run needs of the tree while it copies: every stylesheet is a text, and files stand
where the copies and the combined stylesheet go. -/
structure Prepared (current : Location) (output : Path) (sheets : List Path) (tree : FileTree) :
    Prop where
  sheet : ∀ sheet ∈ sheets, ∃ content spelled,
    tree.readFile current sheet = .ok content ∧ fileText content = .ok spelled
  copy : ∀ sheet ∈ sheets, tree.Legible current (target output sheet.name)
  combined : tree.Legible current (output.entry combinedName)

/-- No stylesheet stands where one of them is copied to. -/
def Detached (current : Location) (output : Path) (sheets : List Path) : Prop :=
  ∀ sheet ∈ sheets, ∀ other ∈ sheets,
    sheet.locationOf current ≠ (target output other.name).locationOf current

namespace Prepared

/-- The copying of a stylesheet leaves what a run needs. -/
theorem copied (prepared : Prepared current output sheets before)
    (detached : Detached current output sheets) (member : sheet ∈ sheets)
    (copied : Copied current (output.entry copiesName) sheet content before after) :
    Prepared current output sheets after where
  sheet other among := by
    obtain ⟨held, spelled, read, decodes⟩ := prepared.sheet other among
    refine ⟨held, spelled, ?_, decodes⟩
    apply readFile_of_kept read (fun _ => copied.placed.keeps_directory)
    exact (copied.placed.found _).trans (if_neg (detached other among sheet member))
  copy other among := (prepared.copy other among).placed copied.placed
  combined := prepared.combined.placed copied.placed

variable {setting : Setting} {session : Session}

/-- Where a run finds what it needs, it does not fail to copy a stylesheet. -/
theorem copySheet_returns (prepared : Prepared setting.current output sheets session.tree)
    (detached : Detached setting.current output sheets) (member : sheet ∈ sheets) :
    (copySheet setting (output.entry copiesName) sheet).Ends session (fun _ _ => True)
      fun _ _ => False := by
  obtain ⟨content, spelled, read, decodes⟩ := prepared.sheet sheet member
  have away := detached sheet member sheet member
  obtain ⟨located, found⟩ := readFile_eq_ok_iff.mp read
  obtain ⟨held, readCopy⟩ := prepared.copy sheet member
  obtain ⟨locatedCopy, -⟩ := readFile_eq_ok_iff.mp readCopy
  have other : session.tree.sameItem setting.current sheet (target output sheet.name) = false := by
    simp [sameItem, located, locatedCopy, away]
  unfold Bundle.copySheet
  refine Action.ends_bind.mpr (Action.ends_get ?_)
  split
  next same => cases other.symm.trans same
  refine Action.ends_bind.mpr (Action.ends_look (fun again reread => ?_) fun _ refused => ?_)
  · obtain rfl : content = again := Except.ok.inj (read.symm.trans reread)
    refine Action.ends_bind.mpr (Action.ends_change (fun tree written => ?_) fun _ refused => ?_)
    · have copied : Copied setting.current (output.entry copiesName) sheet content session.tree
        tree := ⟨read, placed_of_writeFile written, Ne.symm away⟩
      refine Action.ends_bind.mpr (Action.ends_record (Action.ends_bind.mpr ?_))
      refine Action.ends_look (fun held read => ?_) fun _ refused => ?_
      · obtain rfl : content = held := Except.ok.inj (copied.reread.symm.trans read)
        refine Action.ends_bind.mpr (Action.ends_require (fun _ _ => trivial) fun _ failed => ?_)
        cases decodes.symm.trans failed
      · cases copied.reread.symm.trans refused
    · obtain ⟨after, written⟩ := (prepared.copy sheet member).writeFile content
      cases written.symm.trans refused
  · cases read.symm.trans refused

/-- Where a run finds what it needs, it copies a stylesheet and then finds it again. -/
theorem copySheet (prepared : Prepared setting.current output sheets session.tree)
    (detached : Detached setting.current output sheets) (member : sheet ∈ sheets) :
    (copySheet setting (output.entry copiesName) sheet).Ends session
      (fun _ after => Prepared setting.current output sheets after.tree) fun _ _ => False := by
  have ends := (copySheet_ends setting (output.entry copiesName) sheet session).and
    (prepared.copySheet_returns detached member)
  refine ends.imp ?_ fun _ _ failed => failed.2
  rintro - after ⟨⟨content, spelled, copied, -⟩, -⟩
  exact prepared.copied detached member copied

/-- Where a run finds what it needs, it copies all stylesheets. -/
theorem copySheets (prepared : Prepared setting.current output sheets session.tree)
    (detached : Detached setting.current output sheets) :
    ((Stylesheet.inOrder sheets).mapM (Bundle.copySheet setting (output.entry copiesName))).Ends
      session (fun _ after => Prepared setting.current output sheets after.tree)
      fun _ _ => False :=
  Action.ends_mapM prepared fun _ member _ prepared =>
    prepared.copySheet detached (mem_inOrder.mp member)

end Prepared

variable {setting : Setting} {session : Session}

/-- Sections that have an encoding are written where a file stands. -/
theorem writeCombined_returns {path : Path} {sections : List Text}
    (legible : session.tree.Legible setting.current path)
    (encoding : Utf8.encode (List.intercalate (text "\n") sections) = .ok content) :
    (writeCombined setting path sections).Ends session (fun _ _ => True) fun _ _ => False := by
  unfold writeCombined
  simp only [encoding]
  refine Action.ends_change (fun _ _ => trivial) fun _ refused => ?_
  obtain ⟨after, written⟩ := legible.writeFile content
  cases written.symm.trans refused

/-- A stylesheet of the build tool that is a copy or is not there is spared. -/
theorem removeStale_returns {stale : Path} {copied : List Path}
    (located : session.tree.locate setting.current stale =
      .ok (stale.locationOf setting.current))
    (settled : stale ∈ copied ∨
      session.tree.find? (stale.locationOf setting.current) = none) :
    (removeStale setting stale copied).Ends session (fun _ _ => True) fun _ _ => False := by
  have query : session.tree.query setting.current stale =
      .ok (session.tree.find? (stale.locationOf setting.current)) := by
    simp [FileTree.query, located]
  unfold removeStale
  refine Action.ends_bind.mpr (Action.ends_look (fun found looked => ?_) fun _ refused => ?_)
  · obtain rfl := Except.ok.inj (query.symm.trans looked)
    split
    next standing =>
      rcases settled with copy | gone
      · simp [copy] at standing
      · simp [gone] at standing
    next => exact Action.ends_pure trivial
  · cases query.symm.trans refused

/-- Texts that are the section of one stylesheet in one tree are one text. -/
theorem sectionIn_rightUnique (tree : FileTree) (current : Location) :
    Relator.RightUnique (SectionIn tree current) := by
  rintro sheet _ _ ⟨content, decoded, found, decodes, rfl⟩ ⟨again, other, foundAgain, decodesAgain, rfl⟩
  obtain rfl : content = again := by simpa using found.symm.trans foundAgain
  obtain rfl : decoded = other := Except.ok.inj (decodes.symm.trans decodesAgain)
  rfl

/-- The combined stylesheets of one tree are one file. -/
theorem HoldsSections.unique (holds : HoldsSections current output sheets tree before)
    (again : HoldsSections current output sheets tree after) :
    after.find? ((output.entry combinedName).locationOf current) =
      before.find? ((output.entry combinedName).locationOf current) := by
  obtain ⟨parts, content, sections, encoding, read⟩ := holds
  obtain ⟨others, other, sectionsAgain, encodingAgain, readAgain⟩ := again
  obtain rfl := (sectionIn_rightUnique tree current).forall₂ sections sectionsAgain
  obtain rfl : content = other := Except.ok.inj (encoding.symm.trans encodingAgain)
  rw [(readFile_eq_ok_iff.mp read).2, (readFile_eq_ok_iff.mp readAgain).2]

/-- The last stylesheet of a name is what is left at the end of those of that name. -/
theorem LastOfName.getLast?_filter {ordered : List Path} {last : Path}
    (isLast : LastOfName ordered last) :
    (ordered.filter fun sheet => sheet.name = last.name).getLast? = some last := by
  obtain ⟨done, rest, rfl, alone⟩ := isLast
  have none : (rest.filter fun sheet => decide (sheet.name = last.name)) = [] := by
    simpa using alone
  simp [List.filter_append, none]

/-- The copies of one stylesheet of one tree are one file. -/
theorem HasCopy.unique (copy : HasCopy current output sheets tree before sheet)
    (again : HasCopy current output sheets tree after sheet) :
    after.find? ((target output sheet.name).locationOf current) =
      before.find? ((target output sheet.name).locationOf current) := by
  obtain ⟨last, content, isLast, named, found, read⟩ := copy
  obtain ⟨other, held, isLastAgain, namedAgain, foundAgain, readAgain⟩ := again
  obtain rfl : last = other := by
    have ends := isLast.getLast?_filter
    rw [named, ← namedAgain, isLastAgain.getLast?_filter] at ends
    exact (Option.some.inj ends).symm
  obtain rfl : content = held := by simpa using found.symm.trans foundAgain
  rw [(readFile_eq_ok_iff.mp read).2, (readFile_eq_ok_iff.mp readAgain).2]

/-- Everything that a run for some stylesheets would write is there and holds what the run would
write, and nothing is left for it to remove. -/
structure InPlace (current : Location) (output : Path) (sheets : List Path) (tree : FileTree) :
    Prop where
  directory : tree.HasDirectory current (output.entry copiesName)
  legible : ∀ sheet ∈ sheets, tree.Legible current sheet
  away : ∀ sheet ∈ sheets,
    sheet.locationOf current ≠ (target output sheet.name).locationOf current
  copies : ∀ sheet ∈ sheets, HasCopy current output sheets tree tree sheet
  combined : HoldsSections current output sheets tree tree
  fits : pathTooLong (target output staleName) = false
  settled : tree.find? ((target output staleName).locationOf current) ≠ none →
    ∃ sheet ∈ sheets, sheet.name = staleName

namespace InPlace

/-- No copy goes where a stylesheet stands. -/
theorem detached (inPlace : InPlace current output sheets tree)
    (stand : ∀ sheet ∈ sheets, ∃ content, tree.HasStylesheet current sheet content) :
    Detached current output sheets := by
  intro sheet member other among hit
  obtain ⟨content, stands⟩ := stand sheet member
  have name := name_eq_of_target_eq output stands (named_of_stand stand other among) hit.symm
  exact inPlace.away sheet member (name ▸ hit)

/-- A run finds what it needs. -/
theorem prepared (inPlace : InPlace current output sheets tree) :
    Prepared current output sheets tree where
  sheet sheet member := by
    obtain ⟨content, read⟩ := inPlace.legible sheet member
    obtain ⟨parts, -, sections, -, -⟩ := inPlace.combined
    have each : ∀ sheet ∈ Stylesheet.inOrder sheets, ∃ part, SectionIn tree current sheet part :=
      ((List.forall₂_and_left _ _).mp (sections.imp fun _ part is => ⟨⟨part, is⟩, is⟩)).1
    obtain ⟨part, held, decoded, found, decodes, -⟩ := each sheet (mem_inOrder.mpr member)
    obtain rfl : content = held := by simpa [(readFile_eq_ok_iff.mp read).2] using found
    exact ⟨content, decoded.unifyNewlines, read, by simp [fileText, decodes]⟩
  copy sheet member := (inPlace.copies sheet member).elim fun _ ⟨content, _, _, _, read⟩ =>
    ⟨content, read⟩
  combined := inPlace.combined.elim fun _ ⟨content, _, _, read⟩ => ⟨content, read⟩

/-- Nothing keeps a run from writing what is in place. -/
theorem writeAll_returns (inPlace : InPlace setting.current output sheets session.tree)
    (stand : ∀ sheet ∈ sheets, ∃ content,
      session.tree.HasStylesheet setting.current sheet content) :
    (writeAll setting output (Stylesheet.inOrder sheets)).Ends session (fun _ _ => True)
      fun _ _ => False := by
  have there := createDirectories_of_hasDirectory inPlace.directory
  unfold writeAll
  refine Action.ends_bind.mpr (Action.ends_extend (fun tree made => ?_) fun _ _ refused => ?_)
  · obtain rfl : session.tree = tree := by simpa using there.symm.trans made
    have copies := (inPlace.prepared.copySheets (inPlace.detached stand)).and
      (copySheets_ends setting (output.entry copiesName) (Stylesheet.inOrder sheets) session)
    refine (copies.imp (fun _ _ => id) fun _ _ failed => failed.1.elim).bind ?_
    rintro yielded middle ⟨prepared, copied, whole, inOrder, -, sections⟩
    have gathered : Gathered setting.current output copied session.tree middle.tree :=
      ⟨session.tree, .refl _ _, inOrder⟩
    -- The sections are those that stand in the combined stylesheet, and can be encoded again.
    have found := gathered.find?_before fun copy member =>
      stand copy.1 (mem_sheets_of_whole whole copy member)
    obtain ⟨parts, content, held, encoding, -⟩ := inPlace.combined
    obtain rfl := (sectionIn_rightUnique _ _).forall₂ held
      (whole ▸ sections_before found sections)
    refine (writeCombined_returns prepared.combined encoding).bind fun _ written _ => ?_
    exact Action.ends_bind.mpr (Action.ends_record (Action.ends_pure trivial))
  · cases there.symm.trans refused

/-- Behind the writing of what is in place, nothing is left to be removed. -/
theorem settled_behind {copied : List (Path × Bytes)} {middle written : FileTree}
    (inPlace : InPlace current output sheets tree)
    (stand : ∀ sheet ∈ sheets, ∃ content, tree.HasStylesheet current sheet content)
    (whole : copied.map Prod.fst = Stylesheet.inOrder sheets)
    (combined : Combined current output copied tree middle written) :
    target output staleName ∈
        (Stylesheet.inOrder sheets).map (fun sheet => target output sheet.name) ∨
      written.find? ((target output staleName).locationOf current) = none := by
  have named : ∀ copy ∈ copied, isStylesheetName copy.1.name = true := fun copy member =>
    named_of_stand stand copy.1 (mem_sheets_of_whole whole copy member)
  rw [stale_mem_targets_iff, ← whole]
  rcases combined.at_stale named with ⟨⟨copy, member, name⟩, -⟩ | ⟨others, grown, grew, same⟩
  · exact .inl ⟨copy.1, List.mem_map_of_mem member, name⟩
  · refine .inr (same.trans ?_)
    have lacking : ¬ ∃ sheet ∈ sheets, sheet.name = staleName := by
      rintro ⟨sheet, member, name⟩
      obtain ⟨copy, among, rfl⟩ := exists_copy whole member
      exact others copy among name
    rcases grew ((target output staleName).locationOf current) with same | ⟨onTheWay, nothing, -⟩
    · rw [same]
      by_contra stood
      exact lacking (inPlace.settled stood)
    · cases nothing.symm.trans (inPlace.directory.2 _ onTheWay)

/-- A bundle that is in place is assembled again without a failure. -/
theorem assemble_returns (inPlace : InPlace setting.current output sheets session.tree)
    (stand : ∀ sheet ∈ sheets, ∃ content,
      session.tree.HasStylesheet setting.current sheet content) :
    (assemble setting output (Stylesheet.inOrder sheets)).Ends session (fun _ _ => True)
      fun _ _ => False := by
  unfold assemble
  have writes := (inPlace.writeAll_returns stand).and
    (writeAll_ends setting output (Stylesheet.inOrder sheets) session)
  refine (writes.imp (fun _ _ => id) fun _ _ failed => failed.1.elim).bind ?_
  rintro targets written ⟨-, copied, middle, whole, rfl, combined⟩
  have located := locate_entry combined.keeps_copies (by simp [entry]) ⟨_, rfl⟩ (by decide)
    inPlace.fits
  refine (removeStale_returns located (inPlace.settled_behind stand whole combined)).bind ?_
  exact fun _ _ _ => Action.ends_pure trivial

end InPlace

end Bundle

end DesignTokens
