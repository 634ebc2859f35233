import DesignTokens.Proofs.Bundle.Combination

/-!
# What a run of the bundler leaves different

Whether it returns or fails, a run leaves everything as it was but for new directories on the
way to the copies, the copies, the combined stylesheet and the stylesheet of the build tool. If
it fails, the combined stylesheet is as it was, unless the run has come so far as to write it.
-/

namespace DesignTokens.Bundle

open FileTree DesignTokens.Path

variable {current : Location} {output : Path} {sheets : List Path}
  {copied : List (Path × Bytes)} {before middle written after : FileTree} {asked : Location}

/-- What a run may leave at a location, given the stylesheets that it has found. -/
inductive Footprint (current : Location) (output : Path) (sheets : List Path)
    (before after : FileTree) (asked : Location) : Prop
  | unchanged (same : after.find? asked = before.find? asked)
  | directory (onTheWay : asked ∈ (output.entry copiesName).through current)
      (nothing : before.find? asked = none) (made : after.find? asked = some .directory)
  | copy (sheet : Path) (member : sheet ∈ sheets)
      (here : asked = (target output sheet.name).locationOf current)
      (file : ∃ content, after.find? asked = some (.file content))
  | combined (here : asked = (output.entry combinedName).locationOf current)
      (file : ∃ content, after.find? asked = some (.file content))
  | cleared (here : asked = (target output staleName).locationOf current)
      (gone : after.find? asked = none)

/-- A footprint stays one where nothing changes any more. -/
theorem Footprint.congr (left : Footprint current output sheets before middle asked)
    (same : after.find? asked = middle.find? asked) :
    Footprint current output sheets before after asked := by
  cases left with
  | unchanged as => exact .unchanged (same.trans as)
  | directory onTheWay nothing made => exact .directory onTheWay nothing (same.trans made)
  | copy sheet member here file =>
      exact .copy sheet member here (file.imp fun _ found => same.trans found)
  | combined here file => exact .combined here (file.imp fun _ found => same.trans found)
  | cleared here gone => exact .cleared here (same.trans gone)

/-- The making of directories and the copying leave what they may. -/
theorem Gathered.footprint (gathered : Gathered current output copied before after)
    (members : ∀ copy ∈ copied, copy.1 ∈ sheets) (asked : Location) :
    Footprint current output sheets before after asked := by
  obtain ⟨grown, grew, inOrder⟩ := gathered
  rcases inOrder.unchanged_or asked with same | ⟨copy, member, here, file⟩
  · rcases grew asked with as | ⟨onTheWay, nothing, made⟩
    · exact .unchanged (same.trans as)
    · exact .directory onTheWay nothing (same.trans made)
  · exact .copy copy.1 (members copy member) here file

/-- The writing of the combined stylesheet leaves what it may. -/
theorem Footprint.placed {content : Bytes}
    (left : Footprint current output sheets before middle asked)
    (placed : Placed current (output.entry combinedName) content middle after) :
    Footprint current output sheets before after asked := by
  by_cases here : asked = (output.entry combinedName).locationOf current
  · exact .combined here ⟨content, by rw [placed.found, if_pos here]⟩
  · exact left.congr (by rw [placed.found, if_neg here])

/-- The clearing of the stylesheet of the build tool leaves what it may. -/
theorem Footprint.clearing {copies removed : List Path}
    (left : Footprint current output sheets before middle asked)
    (cleared : Cleared current (target output staleName) copies middle after removed) :
    Footprint current output sheets before after asked := by
  cases cleared with
  | spared same => exact same ▸ left
  | removed _ took =>
      by_cases here : asked = (target output staleName).locationOf current
      · exact .cleared here (by rw [took.found, if_pos here])
      · exact left.congr (by rw [took.found, if_neg here])

/-- A stylesheet that was copied, in an order of which not all may have been, was found. -/
theorem mem_sheets_of_part {rest : List Path}
    (part : copied.map Prod.fst ++ rest = Stylesheet.inOrder sheets) :
    ∀ copy ∈ copied, copy.1 ∈ sheets := by
  intro copy member
  refine mem_inOrder.mp ?_
  rw [← part]
  exact List.mem_append_left _ (List.mem_map_of_mem member)

/-- A stylesheet that was copied, when all have been, was found. -/
theorem mem_sheets_of_whole (whole : copied.map Prod.fst = Stylesheet.inOrder sheets) :
    ∀ copy ∈ copied, copy.1 ∈ sheets :=
  mem_sheets_of_part (by rw [whole, List.append_nil])

/-- A stylesheet that was found was copied, when all have been. -/
theorem exists_copy {sheet : Path} (whole : copied.map Prod.fst = Stylesheet.inOrder sheets)
    (member : sheet ∈ sheets) : ∃ copy ∈ copied, copy.1 = sheet := by
  rw [← List.mem_map, whole]
  exact mem_inOrder.mpr member

/-- Whatever stands as a stylesheet has the name of one. -/
theorem named_of_stand
    (stand : ∀ sheet ∈ sheets, ∃ content, before.HasStylesheet current sheet content) :
    ∀ sheet ∈ sheets, isStylesheetName sheet.name = true := by
  intro sheet member
  obtain ⟨content, stands⟩ := stand sheet member
  exact stands.named

/-- What was written behind the copies leaves what it may. -/
theorem Combined.footprint (combined : Combined current output copied before middle written)
    (whole : copied.map Prod.fst = Stylesheet.inOrder sheets) (asked : Location) :
    Footprint current output sheets before written asked := by
  obtain ⟨parts, content, -, -, placed⟩ := combined.written
  exact (combined.gathered.footprint (mem_sheets_of_whole whole) asked).placed placed

variable {bundle : Bundle} {setting : Setting} {failure : Failure} {session ended : Session}

/-- A run that returns leaves what it may. -/
theorem Assembled.footprint
    (assembled : Assembled current output (Stylesheet.inOrder sheets) bundle copied before middle
      written after) (asked : Location) :
    Footprint current output sheets before after asked :=
  (assembled.combined.footprint assembled.whole asked).clearing assembled.cleared

/-- A run that fails before all is written leaves what it may. -/
theorem Unfinished.footprint
    (unfinished : Unfinished current output (Stylesheet.inOrder sheets) before after failure)
    (asked : Location) : Footprint current output sheets before after asked := by
  cases unfinished with
  | copying part gathered => exact gathered.footprint (mem_sheets_of_part part) asked
  | combining whole gathered _ _ emptied =>
      exact (gathered.footprint (mem_sheets_of_whole whole) asked).placed emptied

/-- A run that fails leaves what it may. -/
theorem Stopped.footprint
    (stopped : Stopped setting output (Stylesheet.inOrder sheets) session failure ended)
    (asked : Location) :
    Footprint setting.current output sheets session.tree ended.tree asked := by
  cases stopped with
  | writing _ unfinished => exact unfinished.footprint asked
  | clearing _ _ whole combined same => exact same ▸ combined.footprint whole asked

/-- Where the combined stylesheet goes, the making of directories and the copying leave what
was there, or a directory if nothing was there and it is on the way to the copies. -/
theorem Gathered.at_combined (gathered : Gathered current output copied before after)
    (named : ∀ copy ∈ copied, isStylesheetName copy.1.name = true)
    (here : asked = (output.entry combinedName).locationOf current) :
    after.find? asked = before.find? asked ∨
      asked ∈ (output.entry copiesName).through current ∧ before.find? asked = none ∧
        after.find? asked = some .directory := by
  obtain ⟨grown, grew, inOrder⟩ := gathered
  have same : after.find? asked = grown.find? asked := by
    refine inOrder.find?_eq fun copy member hit => ?_
    exact target_ne_combined output current (named copy member) (hit.symm.trans here)
  rw [same]
  exact grew asked

/-- What a run leaves of the combined stylesheet that fails before all is written. -/
inductive CombinedLeft (current : Location) (output : Path) (sheets : List Path)
    (before after : FileTree) : Failure -> Prop
  /-- It is as it was. -/
  | untouched {failure : Failure}
      (same : after.find? ((output.entry combinedName).locationOf current) =
        before.find? ((output.entry combinedName).locationOf current)) :
      CombinedLeft current output sheets before after failure
  /-- Nothing was there, and there is a directory that was made on the way to the copies. -/
  | directory {failure : Failure}
      (onTheWay : (output.entry combinedName).locationOf current ∈
        (output.entry copiesName).through current)
      (nothing : before.find? ((output.entry combinedName).locationOf current) = none)
      (made : after.find? ((output.entry combinedName).locationOf current) = some .directory) :
      CombinedLeft current output sheets before after failure
  /-- It is empty, because the name of a stylesheet that was found has no encoding. -/
  | emptied {fault : Utf8.EncodeFault} (unencoded : ∃ sheet ∈ sheets, sheet.name.isScalar = false)
      (empty : after.readFile current (output.entry combinedName) = .ok []) :
      CombinedLeft current output sheets before after (.unencodable fault)

/-- What a run that fails leaves of the combined stylesheet: whatever is left when not all was
written, and a complete one when it fails at the clearing of the stylesheet of the build
tool. -/
inductive CombinedOnFailure (setting : Setting) (output : Path) (sheets : List Path)
    (session : Session) (failure : Failure) (ended : Session) : Prop
  | unwritten
      (failed : writeAll setting output (Stylesheet.inOrder sheets) session =
        .error failure ended)
      (left : CombinedLeft setting.current output sheets session.tree ended.tree failure)
  | complete (targets : List Path) (written : Session)
      (wrote : writeAll setting output (Stylesheet.inOrder sheets) session = .ok targets written)
      (refused : removeStale setting (target output staleName) targets written =
        .error failure ended)
      (holds : HoldsSections setting.current output sheets session.tree ended.tree)

/-- A section has an encoding if the name of its stylesheet has one. -/
theorem IsSection.isScalar {copy : Path × Bytes} {part : Text} (isSection : IsSection copy part)
    (named : copy.1.name.isScalar = true) : part.isScalar = true := by
  obtain ⟨spelled, decodes, rfl⟩ := isSection
  unfold fileText at decodes
  split at decodes
  next decoded decoding =>
    cases decodes
    have body := Text.isScalar_unifyNewlines (Utf8.isScalar_of_decode decoding)
    simp only [sectionText, Text.isScalar_append, named, body, Bool.and_true]
    decide
  next => cases decodes

/-- Sections have an encoding if the names of their stylesheets have one. -/
theorem isScalar_of_sections {parts : List Text} (sections : List.Forall₂ IsSection copied parts)
    (named : ∀ copy ∈ copied, copy.1.name.isScalar = true) :
    ∀ part ∈ parts, part.isScalar = true := by
  induction sections with
  | nil => exact List.forall_mem_nil _
  | cons isSection _ ih =>
      obtain ⟨here, later⟩ := List.forall_mem_cons.mp named
      exact List.forall_mem_cons.mpr ⟨isSection.isScalar here, ih later⟩

/-- Sections that have no encoding together are those of a stylesheet whose name has none. -/
theorem exists_unencoded {parts : List Text} {fault : Utf8.EncodeFault}
    (sections : List.Forall₂ IsSection copied parts)
    (unencoded : Utf8.encode (List.intercalate (text "\n") parts) = .error fault) :
    ∃ copy ∈ copied, copy.1.name.isScalar = false := by
  by_contra lacking
  have named : ∀ copy ∈ copied, copy.1.name.isScalar = true := by simpa using lacking
  have newline : Text.isScalar (text "\n") = true := by decide
  obtain ⟨content, encoded⟩ := Utf8.exists_encode_iff.mpr
    (Text.isScalar_intercalate newline (isScalar_of_sections sections named))
  cases encoded.symm.trans unencoded

/-- A run that fails before all is written leaves the combined stylesheet as it was, but for a
directory on the way to the copies, unless it is the combined stylesheet that fails. -/
theorem Unfinished.combinedLeft
    (unfinished : Unfinished current output (Stylesheet.inOrder sheets) before after failure)
    (stand : ∀ sheet ∈ sheets, ∃ content, before.HasStylesheet current sheet content) :
    CombinedLeft current output sheets before after failure := by
  cases unfinished with
  | copying part gathered =>
      have named := fun copy member =>
        named_of_stand stand copy.1 (mem_sheets_of_part part copy member)
      rcases gathered.at_combined named rfl with same | ⟨onTheWay, nothing, made⟩
      · exact .untouched same
      · exact .directory onTheWay nothing made
  | combining whole gathered sections unencoded emptied =>
      obtain ⟨copy, member, lacking⟩ := exists_unencoded sections unencoded
      exact .emptied ⟨copy.1, mem_sheets_of_whole whole copy member, lacking⟩ emptied.readFile

/-- Where a run has failed tells what it has left of the combined stylesheet. -/
theorem Stopped.combinedOnFailure
    (stopped : Stopped setting output (Stylesheet.inOrder sheets) session failure ended)
    (stand : ∀ sheet ∈ sheets, ∃ content,
      session.tree.HasStylesheet setting.current sheet content) :
    CombinedOnFailure setting output sheets session failure ended := by
  cases stopped with
  | writing failed unfinished => exact .unwritten failed (unfinished.combinedLeft stand)
  | @clearing _ targets _ written wrote refused whole combined same =>
      exact .complete targets written wrote refused (same ▸ combined.holdsSections whole stand)

/-- Every copy is a file. -/
theorem CopiedInOrder.isFile {copies : Path}
    (inOrder : CopiedInOrder current copies copied before after) :
    ∀ copy ∈ copied, ∃ content,
      after.find? ((copies.entry copy.1.name).locationOf current) = some (.file content) := by
  induction inOrder with
  | nil => exact List.forall_mem_nil _
  | @cons sheet content others before middle after first rest ih =>
      refine List.forall_mem_cons.mpr ⟨?_, ih⟩
      rcases rest.unchanged_or ((copies.entry sheet.name).locationOf current) with
        same | ⟨_, _, _, file⟩
      · exact ⟨content, by simp [same, first.placed.found]⟩
      · exact file

/-- Two copies go to one location only if their stylesheets have one name. -/
theorem target_eq_iff (output : Path) (current : Location) {first second : Text}
    (firstNamed : isStylesheetName first = true) (secondNamed : isStylesheetName second = true) :
    (target output first).locationOf current = (target output second).locationOf current ↔
      first = second := by
  rw [locationOf_target output current firstNamed, locationOf_target output current secondNamed]
  simp

/-- The stylesheet of the build tool is among the copies exactly when a stylesheet has its
name. -/
theorem stale_mem_targets_iff {ordered : List Path} :
    target output staleName ∈ (ordered.map fun sheet => target output sheet.name) ↔
      ∃ sheet ∈ ordered, sheet.name = staleName := by
  rw [List.mem_map]
  refine exists_congr fun sheet => and_congr_right fun _ => ⟨fun same => ?_, fun same => ?_⟩
  · simpa [target] using congrArg Path.name same
  · rw [same]

/-- What stands where the stylesheet of the build tool goes, when everything else is written:
the copy of a stylesheet of that name, or whatever stood there before. -/
theorem Combined.at_stale (combined : Combined current output copied before middle written)
    (named : ∀ copy ∈ copied, isStylesheetName copy.1.name = true) :
    ((∃ copy ∈ copied, copy.1.name = staleName) ∧ ∃ content,
        written.find? ((target output staleName).locationOf current) = some (.file content)) ∨
      (∀ copy ∈ copied, copy.1.name ≠ staleName) ∧ ∃ grown,
        GrownAt ((output.entry copiesName).through current) before grown ∧
        written.find? ((target output staleName).locationOf current) =
          grown.find? ((target output staleName).locationOf current) := by
  obtain ⟨⟨grown, grew, inOrder⟩, -, parts, content, -, -, placed⟩ := combined
  have same : written.find? ((target output staleName).locationOf current) =
      middle.find? ((target output staleName).locationOf current) := by
    rw [placed.found, if_neg (target_ne_combined output current isStylesheetName_stale)]
  rw [same]
  by_cases among : ∃ copy ∈ copied, copy.1.name = staleName
  · obtain ⟨copy, member, name⟩ := among
    obtain ⟨content, file⟩ := inOrder.isFile copy member
    exact .inl ⟨⟨copy, member, name⟩, content, name ▸ file⟩
  · have others : ∀ copy ∈ copied, copy.1.name ≠ staleName := by simpa using among
    refine .inr ⟨others, grown, grew, inOrder.find?_eq fun copy member hit => ?_⟩
    exact others copy member ((target_eq_iff output current isStylesheetName_stale
      (named copy member)).mp hit).symm

/-- The combined stylesheet leaves every directory. -/
theorem Combined.keeps_copies
    (combined : Combined current output copied before middle written) :
    written.HasDirectory current (output.entry copiesName) := by
  obtain ⟨-, ⟨followable, directories⟩, parts, content, -, -, placed⟩ := combined
  exact ⟨followable, fun asked member => placed.keeps_directory (directories asked member)⟩

/-- What has become of a stylesheet of the name that the build tool uses: one stands among the
copies exactly when it is a copy, and one was removed exactly when it stood there before and is
no copy. -/
structure StaleSettled (current : Location) (output : Path) (sheets : List Path)
    (removed : List Path) (before after : FileTree) : Prop where
  standing : after.find? ((target output staleName).locationOf current) ≠ none ↔
    ∃ sheet ∈ sheets, sheet.name = staleName
  removed : removed = [target output staleName] ↔
    before.find? ((target output staleName).locationOf current) ≠ none ∧
      ∀ sheet ∈ sheets, sheet.name ≠ staleName

/-- A run that returns settles what becomes of the stylesheet of the build tool. -/
theorem Assembled.staleSettled
    (assembled : Assembled current output (Stylesheet.inOrder sheets) bundle copied before middle
      written after)
    (stand : ∀ sheet ∈ sheets, ∃ content, before.HasStylesheet current sheet content) :
    StaleSettled current output sheets bundle.removed before after := by
  obtain ⟨whole, targets, -, combined, cleared⟩ := assembled
  have isCopy : target output staleName ∈ bundle.copied ↔
      ∃ sheet ∈ sheets, sheet.name = staleName := by
    simp only [targets, stale_mem_targets_iff, mem_inOrder]
  have among : (∃ copy ∈ copied, copy.1.name = staleName) ↔
      ∃ sheet ∈ sheets, sheet.name = staleName := by
    rw [← isCopy, targets, stale_mem_targets_iff, ← whole]
    simp
  have named : ∀ copy ∈ copied, isStylesheetName copy.1.name = true := fun copy member =>
    named_of_stand stand copy.1 (mem_sheets_of_whole whole copy member)
  generalize bundle.removed = removed at cleared ⊢
  rcases combined.at_stale named with ⟨copy, content, file⟩ | ⟨others, grown, grew, same⟩
  · have copy := among.mp copy
    cases cleared with
    | spared unchanged _ =>
        refine ⟨iff_of_true (by simp [unchanged, file]) copy, iff_of_false (by simp) ?_⟩
        rintro ⟨-, lacking⟩
        obtain ⟨sheet, member, name⟩ := copy
        exact lacking sheet member name
    | removed outside _ => exact absurd (isCopy.mpr copy) outside
  · have lacking : ¬ ∃ sheet ∈ sheets, sheet.name = staleName := by
      rw [← among]
      simpa using others
    cases cleared with
    | spared unchanged reason =>
        have asked := reason.resolve_left (mt isCopy.mp lacking)
        have gone : none = written.find? ((target output staleName).locationOf current) :=
          eq_find?_of_query_entry combined.keeps_copies (by simp [entry]) ⟨_, rfl⟩ (by decide) asked
        refine ⟨iff_of_false (by simp [unchanged, ← gone]) lacking, iff_of_false (by simp) ?_⟩
        rintro ⟨stood, -⟩
        exact grew.keeps_standing stood (same.symm.trans gone.symm)
    | removed outside took =>
        obtain ⟨content, file⟩ := took.file
        have stood := grew.file_iff.mp (same.symm.trans file)
        exact ⟨iff_of_false (by simp [took.found]) lacking,
          iff_of_true rfl ⟨by simp [stood], by simpa using lacking⟩⟩

/-- Whatever a run ends in, it leaves everything as it was but for directories that it makes on
the way to the copies, the copies, the combined stylesheet and the stylesheet of the build tool.
If it finds no stylesheets, or its scan is refused, it changes nothing. If it returns, what has
become of the stylesheet of the build tool depends on what it has found, and if it fails, what
it leaves of the combined stylesheet depends on how far it has come. -/
theorem run_footprint (setting : Setting) (source output : Path) (session : Session) :
    (run setting source output).Ends session
      (fun bundle after => ∃ sheets,
        session.tree.findStylesheets setting.current source = .ok sheets ∧
        (∀ asked, Footprint setting.current output sheets session.tree after.tree asked) ∧
        (sheets = [] → after.tree = session.tree ∧ bundle = ⟨[], none, []⟩) ∧
        (sheets ≠ [] →
          StaleSettled setting.current output sheets bundle.removed session.tree after.tree))
      fun failure after =>
        (∃ fault, session.tree.findStylesheets setting.current source = .error fault ∧
          after.tree = session.tree) ∨
        ∃ sheets, session.tree.findStylesheets setting.current source = .ok sheets ∧
          sheets ≠ [] ∧
          (∀ asked, Footprint setting.current output sheets session.tree after.tree asked) ∧
          CombinedOnFailure setting output sheets session failure after := by
  refine (run_ends setting source output session).imp ?_ ?_
  · rintro bundle after ⟨sheets, found, outcome⟩
    refine ⟨sheets, found, ?_⟩
    rcases outcome with ⟨rfl, rfl, same⟩ | ⟨present, copied, middle, written, assembled⟩
    · exact ⟨fun asked => .unchanged (by rw [same]), fun _ => ⟨same, rfl⟩,
        fun present => absurd rfl present⟩
    · have settled := assembled.staleSettled fun _ => hasStylesheet_of_mem_findStylesheets found
      exact ⟨assembled.footprint, fun lacking => absurd lacking present, fun _ => settled⟩
  · rintro failure after (refused | ⟨sheets, found, present, stopped⟩)
    · exact .inl refused
    · have left := stopped.combinedOnFailure fun _ => hasStylesheet_of_mem_findStylesheets found
      exact .inr ⟨sheets, found, present, stopped.footprint, left⟩

/-- A run that finds stylesheets fails before it comes to clearing the one of the build tool
away, and does not leave the combined stylesheet as it was. -/
def DisturbsCombined (source output : Path) (session : Session) : Prop :=
  ∃ sheets, session.tree.findStylesheets [] source = .ok sheets ∧ sheets ≠ [] ∧
    (writeAll ⟨[], none⟩ output (Stylesheet.inOrder sheets)).Ends session (fun _ _ => False)
      (fun _ _ => True) ∧
    (run ⟨[], none⟩ source output).Ends session (fun _ _ => False) fun _ after =>
      after.tree.find? ((output.entry combinedName).locationOf []) ≠
        session.tree.find? ((output.entry combinedName).locationOf [])

/-- A stylesheet whose name has no encoding leaves the combined one empty, and an output that is
spelled through the name of the combined one makes a directory of it. -/
theorem run_disturbs_combined :
    DisturbsCombined (ofText (text "src")) (ofText (text "dist"))
        (sessionWith [([text "src", ⟨0xDCFF, by decide⟩ :: text ".css"], [0x61]),
          ([text "dist", text "styles.css"], [0x62])]) ∧
      DisturbsCombined (ofText (text "src")) (ofText (text "dist/styles.css/.."))
        (sessionWith [([text "src", text "a.css"], [0x61])]) := by
  constructor
  · refine ⟨[(ofText (text "src")).entry (⟨0xDCFF, by decide⟩ :: text ".css")], ?_⟩
    decide +kernel
  · refine ⟨[ofText (text "src/a.css")], ?_⟩
    decide +kernel

end DesignTokens.Bundle
