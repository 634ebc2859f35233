import DesignTokens.Proofs.Bundle.Steps
import DesignTokens.Proofs.FileTree.Scan

/-!
# What a bundle leaves of the stylesheets that it is made of

A run of the bundler takes no stylesheet away that it has found. It changes one only by
writing at its location: the combined stylesheet, or the copy of another stylesheet of
the same name. A stylesheet that stands among the copies cannot be copied itself, so
that a run which has such a one ends there.
-/

namespace DesignTokens.Bundle

open FileTree DesignTokens.Path

variable {current : Location} {output sheet other : Path} {content : Bytes}

/-- Where a stylesheet of a name is copied to. -/
def target (output : Path) (name : Text) : Path :=
  (output.entry copiesName).entry name

/-- The content of a stylesheet may get lost: it stands where the combined stylesheet
goes, or where it would be copied to itself while a stylesheet of the same name comes
before it. -/
def Exposed (current : Location) (output : Path) (sheets : List Path) (sheet : Path) : Prop :=
  (output.entry combinedName).locationOf current = sheet.locationOf current ∨
    (target output sheet.name).locationOf current = sheet.locationOf current ∧
      ∃ before rest, Stylesheet.inOrder sheets = before ++ sheet :: rest ∧
        ∃ other ∈ before, other ≠ sheet ∧ other.name = sheet.name

/-- A stylesheet is still there, and with the content it had unless it was exposed. -/
def Spared (current : Location) (output : Path) (sheets : List Path) (sheet : Path)
    (content : Bytes) (tree : FileTree) : Prop :=
  ∃ now, tree.find? (sheet.locationOf current) = some (.file now) ∧
    (now = content ∨ Exposed current output sheets sheet)

variable {sheets : List Path}

namespace Spared

variable {before after : FileTree}

/-- The making of directories spares a stylesheet. -/
theorem grown {made : List Location} (spared : Spared current output sheets sheet content before)
    (grew : GrownAt made before after) : Spared current output sheets sheet content after := by
  obtain ⟨now, found, same⟩ := spared
  exact ⟨now, grew.kept found, same⟩

/-- A write to another location spares a stylesheet, and so does one to an exposed one. -/
theorem placed {path : Path} {new : Bytes}
    (spared : Spared current output sheets sheet content before)
    (wrote : Placed current path new before after)
    (exposed : path.locationOf current = sheet.locationOf current →
      Exposed current output sheets sheet) :
    Spared current output sheets sheet content after := by
  by_cases here : path.locationOf current = sheet.locationOf current
  · exact ⟨new, by rw [wrote.found, if_pos here.symm], .inr (exposed here)⟩
  · obtain ⟨now, found, same⟩ := spared
    exact ⟨now, by rw [wrote.found, if_neg (Ne.symm here), found], same⟩

/-- The copying of a stylesheet to another location spares a stylesheet. -/
theorem copySheet {setting : Setting} {session : Session}
    (spared : Spared setting.current output sheets sheet content session.tree)
    (exposed : (target output other.name).locationOf setting.current =
      sheet.locationOf setting.current → Exposed setting.current output sheets sheet) :
    (copySheet setting (output.entry copiesName) other).Leaves session
      (Spared setting.current output sheets sheet content) := by
  refine (copySheet_ends setting (output.entry copiesName) other session).imp
    (fun _ _ ⟨_, _, copied, _⟩ => spared.placed copied.placed exposed) fun _ after stopped => ?_
  rcases stopped with same | ⟨_, copied, -⟩
  · exact same ▸ spared
  · exact spared.placed copied.placed exposed

/-- So does the copying of several, up to one that cannot be copied. -/
theorem copySheets {setting : Setting} {session : Session}
    (spared : Spared setting.current output sheets sheet content session.tree)
    (others : List Path) (exposed : ∀ other ∈ others,
      (target output other.name).locationOf setting.current = sheet.locationOf setting.current →
        Exposed setting.current output sheets sheet) :
    (others.mapM (Bundle.copySheet setting (output.entry copiesName))).Leaves session
      (Spared setting.current output sheets sheet content) :=
  Action.leaves_mapM spared fun other among _ spared => spared.copySheet (exposed other among)

/-- The writing of the combined stylesheet spares a stylesheet, which is exposed if it
stands there. -/
theorem writeCombined {setting : Setting} {session : Session}
    (spared : Spared setting.current output sheets sheet content session.tree)
    (sections : List Text) :
    (writeCombined setting (output.entry combinedName) sections).Leaves session
      (Spared setting.current output sheets sheet content) := by
  refine (writeCombined_ends setting (output.entry combinedName) sections session).imp
    (fun _ _ ⟨_, _, written⟩ => spared.placed written .inl) fun _ after stopped => ?_
  rcases stopped with same | ⟨_, -, -, emptied⟩
  · exact same ▸ spared
  · exact spared.placed emptied .inl

/-- The removal of a stylesheet at another location spares a stylesheet. -/
theorem removeStale {setting : Setting} {session : Session} {stale : Path}
    (spared : Spared setting.current output sheets sheet content session.tree)
    (elsewhere : stale.locationOf setting.current ≠ sheet.locationOf setting.current)
    (copied : List Path) :
    (removeStale setting stale copied).Leaves session
      (Spared setting.current output sheets sheet content) := by
  refine (removeStale_ends setting stale copied session).imp (fun _ after removed => ?_)
    fun _ _ same => same ▸ spared
  cases removed with
  | spared same => exact same ▸ spared
  | removed _ took =>
      obtain ⟨now, found, same⟩ := spared
      exact ⟨now, by rw [took.found, if_neg (Ne.symm elsewhere), found], same⟩

end Spared

/-- A stylesheet that stands where it would be copied to is not copied. -/
theorem copySheet_of_same (setting : Setting) (session : Session)
    (same : (target output sheet.name).locationOf setting.current =
      sheet.locationOf setting.current) :
    (copySheet setting (output.entry copiesName) sheet).Ends session
      (fun _ _ => False) fun _ after => after.tree = session.tree := by
  refine (copySheet_ends setting (output.entry copiesName) sheet session).imp
    (fun _ _ ⟨_, _, copied, _⟩ => copied.away same) fun _ after stopped => ?_
  rcases stopped with unchanged | ⟨_, copied, -⟩
  · exact unchanged
  · exact absurd same copied.away

/-- The name of a stylesheet does not lead up. -/
theorem advance_of_isStylesheetName {name : Text} (named : isStylesheetName name = true)
    (location : Location) : advance location name = location ++ [name] := by
  refine if_neg fun forward => ?_
  rw [forward] at named
  exact absurd named (by decide)

/-- A stylesheet that stands where another is copied to has the name of that one. -/
theorem name_eq_of_target_eq (output : Path) {tree : FileTree} {name : Text}
    (stands : tree.HasStylesheet current sheet content) (named : isStylesheetName name = true)
    (hit : (target output name).locationOf current = sheet.locationOf current) :
    name = sheet.name := by
  have last := stands.last
  rw [← hit, target, locationOf_entry, advance_of_isStylesheetName named] at last
  simpa using last

/-- A bundle is made of what was found, in another order. -/
theorem mem_inOrder : other ∈ Stylesheet.inOrder sheets ↔ other ∈ sheets :=
  List.mem_mergeSort

variable {setting : Setting} {session : Session}

/-- The copying of all spares each. It comes to no end if there is one that stands where it
would be copied to. -/
theorem copies_end (stands : session.tree.HasStylesheet setting.current sheet content)
    (named : ∀ other ∈ sheets, isStylesheetName other.name = true) (member : sheet ∈ sheets) :
    ((Stylesheet.inOrder sheets).mapM (copySheet setting (output.entry copiesName))).Ends session
      (fun _ after => Spared setting.current output sheets sheet content after.tree ∧
        (target output sheet.name).locationOf setting.current ≠ sheet.locationOf setting.current)
      fun _ after => Spared setting.current output sheets sheet content after.tree := by
  have spared : Spared setting.current output sheets sheet content session.tree :=
    ⟨content, stands.found, .inl rfl⟩
  have names {other : Path} (among : other ∈ Stylesheet.inOrder sheets) :=
    name_eq_of_target_eq output stands (named other (mem_inOrder.mp among))
  by_cases same : (target output sheet.name).locationOf setting.current =
      sheet.locationOf setting.current
  · -- The copying stops at the first of it, so that only those before it can do damage.
    obtain ⟨before, rest, split, first⟩ := List.eq_append_cons_of_mem (mem_inOrder.mpr member)
    have earlier := spared.copySheets before fun other among hit =>
      .inr ⟨same, before, rest, split, other, among, fun itself => first (itself ▸ among),
        names (by simp [split, among]) hit⟩
    rw [split, List.mapM_append, List.mapM_cons]
    refine Action.Ends.bind earlier fun _ middle spared => ?_
    have stops := copySheet_of_same setting middle same
    refine Action.ends_bind.mpr (Action.ends_bind.mpr ?_)
    exact stops.imp (fun _ _ => False.elim) fun _ _ unchanged => unchanged ▸ spared
  · -- No other is copied to where it stands, because its name would be the same.
    have each := spared.copySheets (Stylesheet.inOrder sheets) fun other among hit =>
      absurd (names among hit ▸ hit) same
    exact each.imp (fun _ _ spared => ⟨spared, same⟩) fun _ _ spared => spared

/-- Whether the bundler returns or fails, every stylesheet that it found is still there,
and with the content it had, unless the combined stylesheet goes where it stands, or it
stands where it would be copied to and one of the same name comes before it. -/
theorem run_spares (setting : Setting) {source : Path}
    (found : session.tree.findStylesheets setting.current source = .ok sheets)
    (member : sheet ∈ sheets) :
    ∃ content, session.tree.find? (sheet.locationOf setting.current) = some (.file content) ∧
      (run setting source output).Leaves session
        (Spared setting.current output sheets sheet content) := by
  obtain ⟨content, stands⟩ := hasStylesheet_of_mem_findStylesheets found member
  refine ⟨content, stands.found, ?_⟩
  have named : ∀ other ∈ sheets, isStylesheetName other.name = true := fun other among =>
    (hasStylesheet_of_mem_findStylesheets found among).elim fun _ stands => stands.named
  have spared : Spared setting.current output sheets sheet content session.tree :=
    ⟨content, stands.found, .inl rfl⟩
  unfold run
  refine Action.ends_bind.mpr (Action.ends_look (fun listed scanned => ?_) fun _ _ => spared)
  obtain rfl : sheets = listed := Except.ok.inj (found.symm.trans scanned)
  split
  next => exact Action.ends_bind.mpr (Action.ends_record (Action.leaves_pure spared))
  next =>
    have grew := grownAt_createDirectories session.tree setting.current (output.entry copiesName)
    refine Action.ends_bind.mpr
      (Action.ends_extend (fun grown made => ?_) fun _ grown refused => ?_)
    · have standing : grown.HasStylesheet setting.current sheet content :=
        ⟨by rw [made] at grew; exact grew.kept stands.found, stands.last, stands.named⟩
      refine (copies_end standing named member).bind fun copied middle ⟨spared, away⟩ => ?_
      refine (spared.writeCombined _).bind fun _ written spared => ?_
      refine Action.ends_bind.mpr (Action.ends_record ?_)
      have stale : (target output staleName).locationOf setting.current ≠
          sheet.locationOf setting.current := fun hit =>
        away (name_eq_of_target_eq output stands (by decide) hit ▸ hit)
      refine Action.Leaves.bind (Spared.removeStale ?_ stale _) fun _ _ spared =>
        Action.leaves_pure spared
      exact spared
    · rw [refused] at grew
      exact spared.grown grew

/-- A session whose tree holds files at locations, and a setting at its root. -/
def sessionWith (files : List (Location × Bytes)) : Session :=
  ⟨files.foldl (fun tree entry => tree.putWithParents entry.1 (.file entry.2)) .empty, []⟩

/-- A component's stylesheet is as before when the components are bundled elsewhere. -/
theorem run_spares_component :
    let session := sessionWith [([text "src", text "a.css"], [0x61])]
    let sheets := [ofText (text "src/a.css")]
    session.tree.findStylesheets [] (ofText (text "src")) = .ok sheets ∧
      ofText (text "src/a.css") ∈ sheets ∧
      ∃ content, session.tree.find? ((ofText (text "src/a.css")).locationOf []) =
          some (.file content) ∧
        (run ⟨[], none⟩ (ofText (text "src")) (ofText (text "dist"))).Leaves session
          (Spared [] (ofText (text "dist")) sheets (ofText (text "src/a.css")) content) := by
  intro session sheets
  have found : session.tree.findStylesheets [] (ofText (text "src")) = .ok sheets := by
    decide +kernel
  exact ⟨found, List.mem_singleton_self _,
    run_spares ⟨[], none⟩ found (List.mem_singleton_self _)⟩

/-- A run finds a stylesheet and does not leave its content as it was. -/
def Damages (source output : Path) (session : Session) (sheet : Path) : Prop :=
  ∃ sheets, session.tree.findStylesheets [] source = .ok sheets ∧ sheet ∈ sheets ∧
    (run ⟨[], none⟩ source output).Leaves session fun tree =>
      tree.find? (sheet.locationOf []) ≠ session.tree.find? (sheet.locationOf [])

/-- A stylesheet that stands where the combined one goes is damaged, and so is one among
the copies that comes second to another of its name. -/
theorem run_damages :
    Damages (ofText (text "dist")) (ofText (text "dist"))
        (sessionWith [([text "dist", text "styles.css"], [0x61])])
        (ofText (text "dist/styles.css")) ∧
      Damages (ofText (text "dist")) (ofText (text "dist"))
        (sessionWith [([text "dist", text "x.css"], [0x61]),
          ([text "dist", text "css", text "x.css"], [0x62])])
        (ofText (text "dist/css/x.css")) := by
  constructor
  · refine ⟨[ofText (text "dist/styles.css")], ?_⟩
    decide +kernel
  · let session := sessionWith [([text "dist", text "x.css"], [0x61]),
      ([text "dist", text "css", text "x.css"], [0x62])]
    let sheets := [ofText (text "dist/x.css"), ofText (text "dist/css/x.css")]
    -- Sorting does not evaluate, and both what is visited and what is found is in order.
    have visited : session.tree.visitsBelow [text "dist"] =
        [.seen [text "x.css"] (.file [0x61]), .entered [text "css"],
          .seen [text "css", text "x.css"] (.file [0x62])] :=
      (List.mergeSort_of_pairwise (by decide +kernel)).trans (by decide +kernel)
    have found : session.tree.findStylesheets [] (ofText (text "dist")) = .ok sheets :=
      findStylesheets_of_visitsBelow (by decide +kernel) (by decide +kernel) visited
        (by decide +kernel)
    have order : Stylesheet.inOrder sheets = sheets :=
      List.mergeSort_of_pairwise (by decide +kernel)
    refine ⟨sheets, found, by decide +kernel, ?_⟩
    unfold run
    refine Action.ends_bind.mpr (Action.ends_look (fun listed scanned => ?_) fun _ refused => ?_)
    · obtain rfl : listed = sheets := Except.ok.inj (scanned.symm.trans found)
      rw [order]
      decide +kernel
    · cases found.symm.trans refused

end DesignTokens.Bundle
