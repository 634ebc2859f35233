import DesignTokens.Proofs.Bundle.Footprint
import Mathlib.Data.List.Nodup

/-!
# What the copies hold

The copies stand in one directory, each under the name of its stylesheet. So stylesheets of one
name have one copy, which is that of the last of them in the order of a bundle. A stylesheet
that shares its name with no other has a copy of its own.
-/

namespace DesignTokens.Bundle

open FileTree DesignTokens.Path

variable {current : Location} {source output sheet : Path} {sheets : List Path}
  {copied : List (Path × Bytes)} {before middle written after : FileTree} {name : Text}
  {content : Bytes}

/-- A stylesheet is the last of its name among stylesheets in their order. -/
def LastOfName (ordered : List Path) (last : Path) : Prop :=
  ∃ done rest, ordered = done ++ last :: rest ∧ ∀ later ∈ rest, later.name ≠ last.name

/-- Of the copies of stylesheets of a name, one is the last. -/
theorem exists_last_copy (among : ∃ copy ∈ copied, copy.1.name = name) :
    ∃ done last rest, copied = done ++ last :: rest ∧ last.1.name = name ∧
      ∀ later ∈ rest, later.1.name ≠ name := by
  induction copied with
  | nil =>
      obtain ⟨copy, member, -⟩ := among
      cases member
  | cons first others ih =>
      by_cases again : ∃ copy ∈ others, copy.1.name = name
      · obtain ⟨done, last, rest, rfl, named, alone⟩ := ih again
        exact ⟨first :: done, last, rest, rfl, named, alone⟩
      · have here : first.1.name = name := by simpa [again] using among
        exact ⟨[], first, others, rfl, here, by simpa using again⟩

/-- When all are copied, a copy reads as the content of the last stylesheet of its name. -/
theorem Gathered.readFile_of_last (gathered : Gathered current output copied before middle)
    (named : ∀ copy ∈ copied, isStylesheetName copy.1.name = true)
    (among : ∃ copy ∈ copied, copy.1.name = name) :
    ∃ last ∈ copied, LastOfName (copied.map Prod.fst) last.1 ∧ last.1.name = name ∧
      middle.readFile current (target output name) = .ok last.2 := by
  obtain ⟨done, last, rest, rfl, rfl, alone⟩ := exists_last_copy among
  have member : last ∈ done ++ last :: rest := by simp
  obtain ⟨grown, -, inOrder⟩ := gathered
  refine ⟨last, member, ⟨done.map Prod.fst, rest.map Prod.fst, by simp, by simpa using alone⟩,
    rfl, inOrder.readFile_of_last ?_⟩
  intro later among hit
  have laterNamed := named later (by simp [among])
  exact alone later among ((target_eq_iff output current (named last member) laterNamed).mp hit).symm

/-- The combined stylesheet is written beside the copies. -/
theorem Combined.readFile_target
    (combined : Combined current output copied before middle written)
    (named : isStylesheetName name = true)
    (read : middle.readFile current (target output name) = .ok content) :
    written.readFile current (target output name) = .ok content := by
  obtain ⟨-, -, parts, whole, -, -, placed⟩ := combined
  apply readFile_of_kept read (fun _ => placed.keeps_directory)
  rw [placed.found, if_neg (target_ne_combined output current named)]

/-- No copy is cleared away. -/
theorem Cleared.readFile_target {copies removed : List Path}
    (cleared : Cleared current (target output staleName) copies written after removed)
    (member : target output name ∈ copies) (named : isStylesheetName name = true)
    (read : written.readFile current (target output name) = .ok content) :
    after.readFile current (target output name) = .ok content := by
  cases cleared with
  | spared same => rwa [same]
  | removed outside took =>
      apply readFile_of_kept read (fun _ => took.keeps_directory)
      rw [took.found, if_neg]
      intro hit
      have stale := (target_eq_iff output current named isStylesheetName_stale).mp hit
      exact outside (stale ▸ member)

/-- The copy of a stylesheet is that of the last of its name: it reads as the content which that
one had before. -/
def HasCopy (current : Location) (output : Path) (sheets : List Path) (before after : FileTree)
    (sheet : Path) : Prop :=
  ∃ last content, LastOfName (Stylesheet.inOrder sheets) last ∧ last.name = sheet.name ∧
    before.find? (last.locationOf current) = some (.file content) ∧
    after.readFile current (target output sheet.name) = .ok content

/-- A stylesheet that shares its name with no other has a copy of its own. -/
theorem HasCopy.own (copy : HasCopy current output sheets before after sheet)
    (alone : ∀ other ∈ sheets, other.name = sheet.name → other = sheet) :
    ∃ content, before.find? (sheet.locationOf current) = some (.file content) ∧
      after.readFile current (target output sheet.name) = .ok content := by
  obtain ⟨last, content, ⟨done, rest, split, -⟩, name, found, read⟩ := copy
  have member : last ∈ sheets := mem_inOrder.mp (by simp [split])
  obtain rfl := alone last member name
  exact ⟨content, found, read⟩

variable {bundle : Bundle}

/-- Every stylesheet has a copy. -/
theorem Assembled.hasCopy
    (assembled : Assembled current output (Stylesheet.inOrder sheets) bundle copied before middle
      written after)
    (stand : ∀ sheet ∈ sheets, ∃ content, before.HasStylesheet current sheet content)
    (member : sheet ∈ sheets) : HasCopy current output sheets before after sheet := by
  obtain ⟨whole, targets, -, combined, cleared⟩ := assembled
  have stands : ∀ copy ∈ copied, ∃ content, before.HasStylesheet current copy.1 content :=
    fun copy among => stand copy.1 (mem_sheets_of_whole whole copy among)
  have named : ∀ copy ∈ copied, isStylesheetName copy.1.name = true := fun copy among =>
    named_of_stand stand copy.1 (mem_sheets_of_whole whole copy among)
  have among : ∃ copy ∈ copied, copy.1.name = sheet.name := by
    obtain ⟨copy, among, rfl⟩ := exists_copy whole member
    exact ⟨copy, among, rfl⟩
  obtain ⟨last, lastAmong, isLast, name, read⟩ := combined.gathered.readFile_of_last named among
  have sheetNamed : isStylesheetName sheet.name = true := name ▸ named last lastAmong
  have isCopy : target output sheet.name ∈ bundle.copied := by
    rw [targets]
    exact List.mem_map.mpr ⟨sheet, mem_inOrder.mpr member, rfl⟩
  have kept := combined.readFile_target sheetNamed read
  exact ⟨last.1, last.2, whole ▸ isLast, name,
    combined.gathered.find?_before stands last lastAmong,
    cleared.readFile_target isCopy sheetNamed kept⟩

/-- The copies go to different paths exactly when no two stylesheets share a name. -/
theorem nodup_targets_iff (output : Path) (sheets : List Path) :
    ((Stylesheet.inOrder sheets).map fun sheet => target output sheet.name).Nodup ↔
      (sheets.map Path.name).Nodup := by
  have injective : Function.Injective (target output) := by
    intro first second same
    simpa [target] using congrArg Path.name same
  have ordered : (Stylesheet.inOrder sheets).Perm sheets := List.mergeSort_perm sheets _
  calc ((Stylesheet.inOrder sheets).map fun sheet => target output sheet.name).Nodup
    _ ↔ (((Stylesheet.inOrder sheets).map Path.name).map (target output)).Nodup := by
      rw [List.map_map]
      rfl
    _ ↔ ((Stylesheet.inOrder sheets).map Path.name).Nodup := List.nodup_map_iff injective
    _ ↔ (sheets.map Path.name).Nodup := (ordered.map Path.name).nodup_iff

/-- Neither of two paths leads to where the other one does, or to somewhere below. -/
def Apart (current : Location) (first second : Path) : Prop :=
  ¬ first.locationOf current <+: second.locationOf current ∧
    ¬ second.locationOf current <+: first.locationOf current

instance (current : Location) (first second : Path) : Decidable (Apart current first second) :=
  inferInstanceAs (Decidable (_ ∧ _))

/-- What stands below one of two paths apart does not stand below the other. -/
theorem Apart.not_below {first second : Path} {asked : Location}
    (apart : Apart current first second) (below : first.locationOf current <+: asked) :
    ¬ second.locationOf current <+: asked := by
  intro other
  rcases List.prefix_or_prefix_of_prefix below other with inside | outside
  · exact apart.1 inside
  · exact apart.2 outside

/-- A run leaves every stylesheet as it was when its output is apart from them. -/
theorem Footprint.unchanged_of_apart {asked : Location}
    (left : Footprint current output sheets before after asked)
    (named : ∀ sheet ∈ sheets, isStylesheetName sheet.name = true)
    (apart : ¬ output.locationOf current <+: asked)
    (stood : before.find? asked ≠ none) : after.find? asked = before.find? asked := by
  cases left with
  | unchanged same => exact same
  | directory _ nothing => exact absurd nothing stood
  | copy sheet member here =>
      rw [here, locationOf_target output current (named sheet member)] at apart
      exact absurd (List.prefix_append _ _) apart
  | combined here =>
      rw [here, locationOf_combined] at apart
      exact absurd (List.prefix_append _ _) apart
  | cleared here =>
      rw [here, locationOf_target output current isStylesheetName_stale] at apart
      exact absurd (List.prefix_append _ _) apart

variable {setting : Setting} {session ended : Session}

/-- A run that returns lists one copy for every stylesheet that it has found, in the order of a
bundle, and no two of them are one exactly when no two stylesheets share a name. The copy of a
stylesheet holds what the last of its name held before the run, which is the stylesheet itself
if no other has its name. The stylesheets themselves are as they were if the output is apart from
where they were looked for. -/
theorem run_copies (found : session.tree.findStylesheets setting.current source = .ok sheets)
    (returned : run setting source output session = .ok bundle ended) :
    bundle.copied = (Stylesheet.inOrder sheets).map (fun sheet => target output sheet.name) ∧
      (bundle.copied.Nodup ↔ (sheets.map Path.name).Nodup) ∧
      (∀ sheet ∈ sheets, HasCopy setting.current output sheets session.tree ended.tree sheet) ∧
      (∀ sheet ∈ sheets, (∀ other ∈ sheets, other.name = sheet.name → other = sheet) →
        ∃ content, session.tree.find? (sheet.locationOf setting.current) =
            some (.file content) ∧
          ended.tree.readFile setting.current (target output sheet.name) = .ok content) ∧
      (Apart setting.current source output → ∀ sheet ∈ sheets,
        ended.tree.find? (sheet.locationOf setting.current) =
          session.tree.find? (sheet.locationOf setting.current)) := by
  obtain ⟨listed, scanned, outcome⟩ :=
    (run_ends setting source output session).of_returned returned
  obtain rfl : sheets = listed := Except.ok.inj (found.symm.trans scanned)
  rcases outcome with ⟨rfl, rfl, -⟩ | ⟨-, copied, middle, written, assembled⟩
  · simp [Stylesheet.inOrder]
  have stand : ∀ sheet ∈ sheets, ∃ content,
      session.tree.HasStylesheet setting.current sheet content := fun _ =>
    hasStylesheet_of_mem_findStylesheets found
  have copies : ∀ sheet ∈ sheets,
      HasCopy setting.current output sheets session.tree ended.tree sheet := fun _ =>
    assembled.hasCopy stand
  refine ⟨assembled.targets, assembled.targets ▸ nodup_targets_iff output sheets, copies,
    fun sheet member => (copies sheet member).own, ?_⟩
  intro apart sheet member
  obtain ⟨content, stands⟩ := stand sheet member
  apply (assembled.footprint _).unchanged_of_apart
  · exact named_of_stand stand
  · exact apart.not_below (below_of_mem_findStylesheets found member)
  · simp [stands.found]

/-- Three stylesheets, two of which have one name. -/
def sameNamed : Session :=
  sessionWith [([text "src", text "a", text "x.css"], [0x61]),
    ([text "src", text "b", text "x.css"], [0x62]), ([text "src", text "b", text "y.css"], [0x63])]

/-- All of them are found, one after the other. -/
theorem findStylesheets_sameNamed :
    sameNamed.tree.findStylesheets [] (ofText (text "src")) =
      .ok [ofText (text "src/a/x.css"), ofText (text "src/b/x.css"),
        ofText (text "src/b/y.css")] := by
  have visited : sameNamed.tree.visitsBelow [text "src"] =
      [.entered [text "a"], .seen [text "a", text "x.css"] (.file [0x61]),
        .entered [text "b"], .seen [text "b", text "x.css"] (.file [0x62]),
        .seen [text "b", text "y.css"] (.file [0x63])] :=
    (List.mergeSort_of_pairwise (by decide +kernel)).trans (by decide +kernel)
  exact findStylesheets_of_visitsBelow (by decide +kernel) (by decide +kernel) visited
    (by decide +kernel)

/-- Bundled, those of one name have one copy between them, which holds what the second does. -/
theorem run_sameNamed :
    ∃ bundle ended,
      run ⟨[], none⟩ (ofText (text "src")) (ofText (text "dist")) sameNamed = .ok bundle ended ∧
      bundle.copied = [ofText (text "dist/css/x.css"), ofText (text "dist/css/x.css"),
        ofText (text "dist/css/y.css")] ∧
      ended.tree.readFile [] (ofText (text "dist/css/x.css")) = .ok [0x62] := by
  rw [run_of_found findStylesheets_sameNamed (List.cons_ne_nil _ _), Stylesheet.inOrder,
    List.mergeSort_of_pairwise (by decide +kernel)]
  apply Action.Ends.returned
  decide +kernel

/-- Each of them has a copy, and the one that shares its name with no other has its own. -/
theorem run_copies_sameNamed :
    let single := ofText (text "src/b/y.css")
    let sheets := [ofText (text "src/a/x.css"), ofText (text "src/b/x.css"), single]
    ∃ bundle ended,
      run ⟨[], none⟩ (ofText (text "src")) (ofText (text "dist")) sameNamed = .ok bundle ended ∧
      (bundle.copied.Nodup ↔ (sheets.map Path.name).Nodup) ∧
      (∀ sheet ∈ sheets,
        HasCopy [] (ofText (text "dist")) sheets sameNamed.tree ended.tree sheet) ∧
      (∃ content, sameNamed.tree.find? (single.locationOf []) = some (.file content) ∧
        ended.tree.readFile [] (target (ofText (text "dist")) single.name) = .ok content) ∧
      ∀ sheet ∈ sheets, ended.tree.find? (sheet.locationOf []) =
        sameNamed.tree.find? (sheet.locationOf []) := by
  intro single sheets
  obtain ⟨bundle, ended, returned, -⟩ := run_sameNamed
  obtain ⟨-, distinct, copies, own, unchanged⟩ := run_copies findStylesheets_sameNamed returned
  have alone := own single (by decide +kernel) (by decide +kernel)
  exact ⟨bundle, ended, returned, distinct, copies, alone, unchanged (by decide +kernel)⟩

/-- A run may return although a stylesheet that it has found has no copy with its content, and
although it lists one copy twice. -/
theorem run_loses_copy :
    let sheet := ofText (text "src/a/x.css")
    Apart [] (ofText (text "src")) (ofText (text "dist")) ∧
      ∃ sheets bundle ended,
        sameNamed.tree.findStylesheets [] (ofText (text "src")) = .ok sheets ∧ sheet ∈ sheets ∧
        run ⟨[], none⟩ (ofText (text "src")) (ofText (text "dist")) sameNamed =
          .ok bundle ended ∧
        (∃ content, sameNamed.tree.find? (sheet.locationOf []) = some (.file content) ∧
          ended.tree.readFile [] (target (ofText (text "dist")) sheet.name) ≠ .ok content) ∧
        ¬ bundle.copied.Nodup := by
  intro sheet
  obtain ⟨bundle, ended, returned, copied, read⟩ := run_sameNamed
  have twice : ¬ bundle.copied.Nodup := by
    rw [copied]
    exact List.not_nodup_cons_of_mem List.mem_cons_self
  have same : target (ofText (text "dist")) sheet.name = ofText (text "dist/css/x.css") := by
    decide +kernel
  have other : ended.tree.readFile [] (target (ofText (text "dist")) sheet.name) ≠ .ok [0x61] := by
    rw [same, read]
    decide
  have held : sameNamed.tree.find? (sheet.locationOf []) = some (.file [0x61]) := by
    decide +kernel
  have apart : Apart [] (ofText (text "src")) (ofText (text "dist")) := by decide +kernel
  exact ⟨apart, _, bundle, ended, findStylesheets_sameNamed, List.mem_cons_self, returned,
    ⟨[0x61], held, other⟩, twice⟩

end DesignTokens.Bundle
