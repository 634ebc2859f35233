import DesignTokens.Proofs.FileTree.Growth
import DesignTokens.Proofs.FileTree.Walk

/-!
# What a scan returns

A scan of a directory returns every stylesheet at any depth below it once, those of a directory
before those of its subdirectories, and nothing else. It does so unless something that it looks at
or enters has too long a path: then it is refused for such a path.
-/

namespace DesignTokens

namespace FileTree

open DesignTokens.Path

variable {tree : FileTree} {location current : Location} {source : Path}

/-- What a scan from a location looks at or enters: whatever has the name of a stylesheet, and
all directories. -/
def Passed (tree : FileTree) (location way : Location) : Prop :=
  way ≠ [] ∧ ∃ item, tree.find? (location ++ way) = some item ∧
    (isStylesheetName (way.getLast?.getD []) = true ∨ item = .directory)

/-- The visits of a scan are on the ways to what it looks at or enters. -/
theorem exists_visit_iff {way : Location} :
    (∃ visit ∈ tree.visitsBelow location, visit.way = way) ↔ tree.Passed location way := by
  constructor
  · rintro ⟨visit, member, rfl⟩
    obtain ⟨way, item, further, found, visited⟩ := mem_visitsBelow_iff.mp member
    obtain rfl := Visit.way_of_mem_ofItem visited
    refine ⟨further, item, found, ?_⟩
    by_contra neither
    obtain ⟨unnamed, other⟩ := not_or.mp neither
    simp [Visit.ofItem, unnamed, other] at visited
  · rintro ⟨further, item, found, named | rfl⟩
    · have visited : Visit.seen way item ∈ Visit.ofItem way item := by simp [Visit.ofItem, named]
      exact ⟨_, mem_visitsBelow_iff.mpr ⟨way, item, further, found, visited⟩, rfl⟩
    · have visited : Visit.entered way ∈ Visit.ofItem way .directory := by simp [Visit.ofItem]
      exact ⟨_, mem_visitsBelow_iff.mpr ⟨way, _, further, found, visited⟩, rfl⟩

/-- The locations of the stylesheets below a location. -/
def sheetLocations (tree : FileTree) (location : Location) : List Location :=
  (tree.stylesheetsBelow location).map (location ++ ·)

/-- Locations are those of all files that stand at any depth below a directory under a name that
ends in `.css`: each once, and nothing in a directory after what is further below. -/
structure EachOnce (tree : FileTree) (start : Location) (places : List Location) : Prop where
  distinct : places.Nodup
  listed : ∀ place, place ∈ places ↔ ∃ above name content, place = above ++ [name] ∧
    start <+: above ∧ text ".css" <:+ name ∧ tree.find? place = some (.file content)
  ordered : places.Pairwise fun first second =>
    second.dropLast <+: first.dropLast → second.dropLast = first.dropLast

/-- They are those of the files that stand at any depth below under the name of a stylesheet. -/
theorem mem_sheetLocations_iff {place : Location} :
    place ∈ tree.sheetLocations location ↔
      ∃ above name content, place = above ++ [name] ∧ location <+: above ∧
        text ".css" <:+ name ∧ tree.find? place = some (.file content) := by
  simp only [sheetLocations, List.mem_map, mem_stylesheetsBelow_iff]
  constructor
  · rintro ⟨way, ⟨further, ⟨content, found⟩, named⟩, rfl⟩
    obtain ⟨between, name, rfl⟩ := (List.eq_nil_or_concat' way).resolve_left further
    refine ⟨location ++ between, name, content, (List.append_assoc _ _ _).symm,
      List.prefix_append _ _, ?_, found⟩
    simpa [isStylesheetName, stylesheetEnding] using named
  · rintro ⟨_, name, content, rfl, ⟨between, rfl⟩, ending, found⟩
    refine ⟨between ++ [name], ⟨by simp, ⟨content, ?_⟩, ?_⟩, (List.append_assoc _ _ _).symm⟩
    · rwa [← List.append_assoc]
    · simpa [isStylesheetName, stylesheetEnding] using ending

/-- Nothing in a directory comes after what is further below. -/
theorem pairwise_sheetLocations (tree : FileTree) (location : Location) :
    (tree.sheetLocations location).Pairwise fun first second =>
      second.dropLast <+: first.dropLast → second.dropLast = first.dropLast := by
  refine List.pairwise_map.mpr ((pairwise_stylesheetsBelow tree location).imp_of_mem ?_)
  intro first second present later before within
  obtain ⟨further, -, -⟩ := mem_stylesheetsBelow_iff.mp present
  obtain ⟨below, last, rfl⟩ := (List.eq_nil_or_concat' first).resolve_left further
  obtain ⟨further, -, -⟩ := mem_stylesheetsBelow_iff.mp later
  obtain ⟨above, name, rfl⟩ := (List.eq_nil_or_concat' second).resolve_left further
  simp only [← List.append_assoc, List.dropLast_concat, List.prefix_append_right_inj] at within ⊢
  obtain ⟨rest, rfl⟩ := within
  cases rest with
  | nil => rw [List.append_nil]
  | cons inner rest =>
      exact absurd before (lt_asymm (Visit.place_lt_of_deeper above rest name inner last _ _))

/-- They are each location of a stylesheet once. -/
theorem eachOnce_sheetLocations (tree : FileTree) (location : Location) :
    tree.EachOnce location (tree.sheetLocations location) where
  distinct := (tree.nodup_stylesheetsBelow location).map (List.append_right_injective location)
  listed _ := mem_sheetLocations_iff
  ordered := tree.pairwise_sheetLocations location

/-- The paths that go on from a directory to the stylesheets below lead to their locations. -/
theorem map_locationOf_onward (tree : FileTree) (current : Location) (source : Path) :
    ((tree.stylesheetsBelow (source.locationOf current)).map (onward source)).map
        (fun sheet => sheet.locationOf current) =
      tree.sheetLocations (source.locationOf current) := by
  rw [List.map_map]
  refine List.map_congr_left fun way member => ?_
  obtain ⟨further, ⟨content, found⟩, -⟩ := mem_stylesheetsBelow_iff.mp member
  exact locationOf_onward further found

/-- A directory that is found at a path is located there. -/
theorem located_of_isDirectory (present : tree.isDirectory current source = .ok true) :
    tree.locate current source = .ok (source.locationOf current) ∧
      tree.find? (source.locationOf current) = some .directory := by
  obtain ⟨followable, directories⟩ := hasDirectory_of_isDirectory present
  refine ⟨locate_eq_ok_iff.mpr ⟨followable, fun asked above => ?_, rfl⟩, ?_⟩
  · exact directories asked (mem_through_iff.mpr (.inl above))
  · exact directories _ (locationOf_mem_through source current)

/-- Where no directory is found, a scan finds nothing. -/
theorem findStylesheets_of_not_directory (absent : tree.isDirectory current source = .ok false) :
    tree.findStylesheets current source = .ok [] := by
  unfold isDirectory query at absent
  split at absent
  next location located =>
    have other : tree.find? location ≠ some .directory := by simpa [Except.map] using absent
    simp only [findStylesheets, located, other, if_false]
  next => cases absent
  next fault short located =>
    unfold findStylesheets
    rw [located]
    split
    next => contradiction
    next refused same => exact absurd (Except.error.inj same) (short refused)
    next => rfl

/-- Where it cannot be told whether a directory is there, a scan is refused for the same reason. -/
theorem findStylesheets_of_unknown {fault : AccessFault}
    (unknown : tree.isDirectory current source = .error fault) :
    tree.findStylesheets current source = .error fault := by
  unfold isDirectory query at unknown
  split at unknown
  next => cases unknown
  next refused located =>
    cases unknown
    simp only [findStylesheets, located]
  next => cases unknown

/-- A scan of a directory finds each file once that stands at any depth below it under a name that
ends in `.css`, and nothing else, in the order of a walk: those in a directory come before those
further below. It is refused exactly if the path of something that it looks at or enters is too
long, and names such a path then. Where there is no directory it finds nothing, and where that
cannot be told it is refused. -/
theorem findStylesheets_finds_each_once (tree : FileTree) (current : Location) (source : Path) :
    let start := source.locationOf current
    (tree.isDirectory current source = .ok true →
      ((∀ way, tree.Passed start way → pathTooLong (onward source way) = false) →
        ∃ sheets, tree.findStylesheets current source = .ok sheets ∧
          sheets = (tree.walk start).map (onward source) ∧
          tree.EachOnce start (sheets.map fun sheet => sheet.locationOf current)) ∧
      ((∃ way, tree.Passed start way ∧ pathTooLong (onward source way) = true) →
        ∃ way, tree.Passed start way ∧ pathTooLong (onward source way) = true ∧
          tree.findStylesheets current source =
            .error (.system .nameTooLong (onward source way)))) ∧
    (tree.isDirectory current source = .ok false → tree.findStylesheets current source = .ok []) ∧
    ∀ fault, tree.isDirectory current source = .error fault →
      tree.findStylesheets current source = .error fault := by
  intro start
  refine ⟨fun present => ?_, findStylesheets_of_not_directory,
    fun _ => findStylesheets_of_unknown⟩
  obtain ⟨located, directory⟩ := located_of_isDirectory present
  constructor
  · intro short
    have found := findStylesheets_of_visitsBelow located directory rfl fun visit member =>
      short visit.way (exists_visit_iff.mp ⟨visit, member, rfl⟩)
    refine ⟨_, found, congrArg _ (tree.stylesheetsBelow_eq_walk start), ?_⟩
    have listed := tree.map_locationOf_onward current source
    rw [← stylesheetsBelow, listed]
    exact tree.eachOnce_sheetLocations start
  · rintro ⟨way, passed, long⟩
    obtain ⟨visit, member, rfl⟩ := exists_visit_iff.mpr passed
    obtain ⟨refused, among, tooLong, refusal⟩ :=
      exists_refused_visit located directory member long
    exact ⟨refused.way, exists_visit_iff.mp ⟨refused, among, rfl⟩, tooLong, refusal⟩

/-- Files in `src` and in a directory there that has the name of a stylesheet. -/
def mixedTree : FileTree :=
  [[text "src", text "b.css"], [text "src", text "lib.css", text "a.css"],
    [text "src", text "lib.css", text "note.txt"],
    [text "src", text "lib.css", text "in", text ".css"]].foldl
    (fun grown location => grown.putWithParents location (.file [0x61])) .empty

/-- The stylesheets are found, also those in that directory, but not the directory. -/
theorem findStylesheets_finds_each_mixed :
    let source := ofText (text "src")
    mixedTree.isDirectory [] source = .ok true ∧
      (∀ way, mixedTree.Passed (source.locationOf []) way →
        pathTooLong (onward source way) = false) ∧
      ∃ sheets, mixedTree.findStylesheets [] source = .ok sheets ∧
        let places := sheets.map fun sheet => sheet.locationOf []
        places.Nodup ∧ [text "src", text "lib.css"] ∉ places ∧
          [text "src", text "lib.css", text "a.css"] ∈ places ∧
          [text "src", text "lib.css", text "in", text ".css"] ∈ places := by
  intro source
  have present : mixedTree.isDirectory [] source = .ok true := by decide +kernel
  have short : ∀ way, mixedTree.Passed (source.locationOf []) way →
      pathTooLong (onward source way) = false := by
    rintro way ⟨further, item, found, -⟩
    have each : ∀ entry ∈ mixedTree.items.entries,
        pathTooLong (onward source (entry.1.drop 1)) = false := by decide +kernel
    have start : source.locationOf [] = [text "src"] := by decide +kernel
    rw [start] at found
    exact each _ (mem_entries_iff.mpr ⟨by simp, found⟩)
  obtain ⟨sheets, found, -, distinct, listed, -⟩ :=
    ((findStylesheets_finds_each_once mixedTree [] source).1 present).1 short
  refine ⟨present, short, sheets, found, distinct, ?_, ?_, ?_⟩
  · intro member
    obtain ⟨above, name, content, -, -, -, file⟩ := (listed _).mp member
    have directory : mixedTree.find? [text "src", text "lib.css"] = some .directory := by
      decide +kernel
    cases directory.symm.trans file
  · exact (listed _).mpr ⟨[text "src", text "lib.css"], text "a.css", [0x61], by decide +kernel⟩
  · exact (listed _).mpr
      ⟨[text "src", text "lib.css", text "in"], text ".css", [0x61], by decide +kernel⟩

/-- A stylesheet, and a directory to go through. -/
def distantTree : FileTree :=
  (FileTree.empty.putWithParents [text "d"] .directory).putWithParents
    [text "s", text "a.css"] (.file [0x61])

/-- A long path to the directory with the stylesheet: again and again through the other one. -/
def windingPath : Path :=
  ⟨.relative, (List.replicate 818 [text "d", up]).flatten ++ [text "s"]⟩

/-- A scan of a directory may find nothing although a stylesheet stands there. -/
theorem findStylesheets_misses_distant :
    distantTree.isDirectory [] windingPath = .ok true ∧
      distantTree.find? (windingPath.locationOf [] ++ [text "a.css"]) = some (.file [0x61]) ∧
      ∀ sheets, distantTree.findStylesheets [] windingPath ≠ .ok sheets := by
  have present : distantTree.isDirectory [] windingPath = .ok true := by decide +kernel
  have stands : distantTree.find? (windingPath.locationOf [] ++ [text "a.css"]) =
      some (.file [0x61]) := by decide +kernel
  have long : pathTooLong (onward windingPath [text "a.css"]) = true := by decide +kernel
  refine ⟨present, stands, fun sheets found => ?_⟩
  obtain ⟨located, directory⟩ := located_of_isDirectory present
  obtain ⟨visit, member, way⟩ := exists_visit_iff.mpr
    ⟨List.cons_ne_nil _ _, _, stands, .inl (by decide)⟩
  obtain ⟨_, -, -, refused⟩ := exists_refused_visit located directory member (way ▸ long)
  cases refused.symm.trans found

end FileTree

end DesignTokens
