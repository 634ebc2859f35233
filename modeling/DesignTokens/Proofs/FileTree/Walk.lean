import DesignTokens.Proofs.FileTree.ScanOrder

/-!
# The walk of a scan

A scan is defined by sorting all visits at once. What it finds is what a walk through the
directories finds: first the stylesheets of a directory in the order of their names, then those of
one subdirectory after the other, in the order of the names of these.
-/

namespace DesignTokens

namespace Visit

variable {name other : Text} {way further : Location}

/-- Below a subdirectory, the place of a visit goes on from that of the subdirectory. -/
theorem place_seen_cons (name : Text) (item : Item) (below : way ≠ []) :
    (seen (name :: way) item).place = toLex (true, name) :: (seen way item).place := by
  simp [place, trail, List.dropLast_cons_of_ne_nil below, List.getLast?_cons_of_ne_nil below]

/-- What is looked at where a scan starts comes in the order of the names. -/
theorem place_lt_of_name (item another : Item) (before : name < other) :
    (seen [name] item).place < (seen [other] another).place := by
  have marks : toLex (false, name) < toLex (false, other) := by
    simpa [Prod.Lex.toLex_lt_toLex] using before
  exact List.cons_lt_cons_iff.mpr (.inl marks)

/-- It comes before whatever is looked at in a subdirectory. -/
theorem place_lt_of_inner (name other : Text) (item another : Item) (below : way ≠ []) :
    (seen [name] item).place < (seen (other :: way) another).place := by
  have marks : toLex (false, name) < toLex (true, other) := by simp [Prod.Lex.toLex_lt_toLex]
  rw [place_seen_cons other another below]
  exact List.cons_lt_cons_iff.mpr (.inl marks)

/-- What is looked at in one subdirectory comes before what is looked at in a later one. -/
theorem place_lt_of_subdirectory (item another : Item) (before : name < other) (below : way ≠ [])
    (beyond : further ≠ []) :
    (seen (name :: way) item).place < (seen (other :: further) another).place := by
  have marks : toLex (true, name) < toLex (true, other) := by
    simpa [Prod.Lex.toLex_lt_toLex] using before
  rw [place_seen_cons name item below, place_seen_cons other another beyond]
  exact List.cons_lt_cons_iff.mpr (.inl marks)

/-- In one subdirectory the order is that of a scan which starts there. -/
theorem place_lt_of_cons {item another : Item} (name : Text) (below : way ≠ [])
    (beyond : further ≠ []) (before : (seen way item).place < (seen further another).place) :
    (seen (name :: way) item).place < (seen (name :: further) another).place := by
  rw [place_seen_cons name item below, place_seen_cons name another beyond]
  exact List.cons_lt_cons_iff.mpr (.inr ⟨rfl, before⟩)

/-- What is looked at in a directory comes before what is looked at further below. -/
theorem place_lt_of_deeper (above rest : Location) (name inner last : Text)
    (item another : Item) :
    (seen (above ++ [name]) item).place <
      (seen (above ++ inner :: rest ++ [last]) another).place := by
  induction above with
  | nil => exact place_lt_of_inner name inner item another (by simp)
  | cons first others ih => exact place_lt_of_cons first (by simp) (by simp) ih

end Visit

namespace FileTree

variable {tree : FileTree} {location : Location} {passes : Item -> Bool}

/-- The names of the entries of a directory that pass a test, in their order. -/
def namesIn (tree : FileTree) (location : Location) (passes : Item -> Bool) : List Text :=
  (tree.items.entries.filterMap fun entry =>
    if entry.1.dropLast = location ∧ passes entry.2 then entry.1.getLast? else none).mergeSort
    Text.noLater

/-- These are the names under which something that passes stands in the directory. -/
theorem mem_namesIn_iff {name : Text} :
    name ∈ tree.namesIn location passes ↔
      ∃ item, tree.find? (location ++ [name]) = some item ∧ passes item = true := by
  simp only [namesIn, List.mem_mergeSort, List.mem_filterMap, Option.ite_none_right_eq_some]
  constructor
  · rintro ⟨⟨key, item⟩, member, ⟨rfl, passing⟩, last⟩
    obtain ⟨further, found⟩ := mem_entries_iff.mp member
    refine ⟨item, ?_, passing⟩
    rwa [List.dropLast_append_getLast? name last]
  · rintro ⟨item, found, passing⟩
    exact ⟨(location ++ [name], item), mem_entries_iff.mpr ⟨by simp, found⟩, by simpa, by simp⟩

/-- No two entries of a directory have one name. -/
theorem nodup_namesIn (tree : FileTree) (location : Location) (passes : Item -> Bool) :
    (tree.namesIn location passes).Nodup := by
  rw [namesIn, (List.mergeSort_perm _ _).nodup_iff]
  refine List.pairwise_filterMap.mpr ((List.pairwise_map.mp tree.items.distinct).imp ?_)
  intro first second different name isFirst other isSecond same
  simp only [Option.ite_none_right_eq_some] at isFirst isSecond
  obtain ⟨⟨inside, -⟩, last⟩ := isFirst
  obtain ⟨⟨within, -⟩, ending⟩ := isSecond
  refine different ?_
  rw [← List.dropLast_append_getLast? name last, ← List.dropLast_append_getLast? other ending,
    inside, within, same]

/-- The names come strictly by the order of texts. -/
theorem pairwise_namesIn (tree : FileTree) (location : Location) (passes : Item -> Bool) :
    (tree.namesIn location passes).Pairwise fun first second => first < second := by
  have sorted : (tree.namesIn location passes).Pairwise fun first second => first ≤ second := by
    refine (List.pairwise_mergeSort (fun _ _ _ => ?_) (fun _ _ => ?_) _).imp Text.noLater_iff.mp
    · simpa only [Text.noLater_iff] using le_trans
    · simpa only [Bool.or_eq_true, Text.noLater_iff] using le_total _ _
  exact (sorted.and (nodup_namesIn tree location passes)).imp fun both =>
    lt_of_le_of_ne both.1 both.2

/-- The names of the stylesheets in a directory. -/
def sheetsIn (tree : FileTree) (location : Location) : List Text :=
  (tree.namesIn location fun item => item != .directory).filter isStylesheetName

/-- The names of the directories in a directory. -/
def directoriesIn (tree : FileTree) (location : Location) : List Text :=
  tree.namesIn location fun item => item = .directory

/-- The stylesheets in a directory are the files there with names of stylesheets. -/
theorem mem_sheetsIn_iff {name : Text} :
    name ∈ tree.sheetsIn location ↔
      (∃ content, tree.find? (location ++ [name]) = some (.file content)) ∧
        isStylesheetName name = true := by
  simp only [sheetsIn, List.mem_filter, mem_namesIn_iff]
  refine and_congr_left fun _ => ⟨?_, ?_⟩
  · rintro ⟨item, found, passing⟩
    cases item with
    | file content => exact ⟨content, found⟩
    | directory => cases passing
  · rintro ⟨content, found⟩
    exact ⟨_, found, rfl⟩

/-- The directories in a directory are those that stand there. -/
theorem mem_directoriesIn_iff {name : Text} :
    name ∈ tree.directoriesIn location ↔ tree.find? (location ++ [name]) = some .directory := by
  simp [directoriesIn, mem_namesIn_iff]

/-- The stylesheets of a directory, and then those of its subdirectories. -/
def walk (tree : FileTree) (location : Location) : List Location :=
  (tree.sheetsIn location).map (fun name => [name]) ++
    (tree.directoriesIn location).flatMap fun name =>
      (tree.stylesheetsBelow (location ++ [name])).map fun way => name :: way

/-- A walk comes across the stylesheets below the directory. -/
theorem mem_walk_iff {way : Location} :
    way ∈ tree.walk location ↔ way ∈ tree.stylesheetsBelow location := by
  simp only [walk, List.mem_append, List.mem_map, List.mem_flatMap, mem_sheetsIn_iff,
    mem_directoriesIn_iff, mem_stylesheetsBelow_iff]
  constructor
  · rintro (⟨name, ⟨found, named⟩, rfl⟩ | ⟨name, -, rest, ⟨further, found, named⟩, rfl⟩)
    · exact ⟨by simp, found, named⟩
    · refine ⟨by simp, ?_, ?_⟩
      · simpa using found
      · rwa [List.getLast?_cons_of_ne_nil further]
  · rintro ⟨further, ⟨content, found⟩, named⟩
    obtain ⟨name, rest, rfl⟩ := List.exists_cons_of_ne_nil further
    rw [List.append_cons] at found
    cases rest with
    | nil => exact .inl ⟨name, ⟨⟨content, by simpa using found⟩, named⟩, rfl⟩
    | cons next rest =>
        have inner : next :: rest ≠ [] := List.cons_ne_nil next rest
        refine .inr ⟨name, find?_of_append found inner, next :: rest, ⟨inner, ⟨content, found⟩, ?_⟩,
          rfl⟩
        rwa [List.getLast?_cons_of_ne_nil inner] at named

/-- A walk goes strictly by the places of what it comes across. -/
theorem pairwise_walk (tree : FileTree) (location : Location) :
    (tree.walk location).Pairwise fun first second =>
      (Visit.seen first .directory).place < (Visit.seen second .directory).place := by
  have below {directory : Location} {way : Location}
      (member : way ∈ tree.stylesheetsBelow directory) : way ≠ [] :=
    (mem_stylesheetsBelow_iff.mp member).1
  refine List.pairwise_append.mpr ⟨?_, ?_, ?_⟩
  · refine List.pairwise_map.mpr (((pairwise_namesIn tree location _).filter _).imp ?_)
    exact Visit.place_lt_of_name .directory .directory
  · refine List.pairwise_flatMap.mpr ⟨fun name _ => ?_, ?_⟩
    · refine List.pairwise_map.mpr ((pairwise_stylesheetsBelow tree _).imp_of_mem ?_)
      intro way further member present
      exact Visit.place_lt_of_cons name (below member) (below present)
    · refine (pairwise_namesIn tree location _).imp ?_
      intro name other before _ inFirst _ inSecond
      obtain ⟨way, member, rfl⟩ := List.mem_map.mp inFirst
      obtain ⟨further, present, rfl⟩ := List.mem_map.mp inSecond
      exact Visit.place_lt_of_subdirectory _ _ before (below member) (below present)
  · intro _ inDirectory _ inSubdirectory
    obtain ⟨name, -, rfl⟩ := List.mem_map.mp inDirectory
    obtain ⟨other, -, inside⟩ := List.mem_flatMap.mp inSubdirectory
    obtain ⟨way, member, rfl⟩ := List.mem_map.mp inside
    exact Visit.place_lt_of_inner name other _ _ (below member)

/-- The scan of a directory finds what a walk comes across, in its order: the stylesheets of the
directory, and then what the scans of its subdirectories find. -/
theorem stylesheetsBelow_eq_walk (tree : FileTree) (location : Location) :
    tree.stylesheetsBelow location = tree.walk location := by
  have distinct : (tree.walk location).Nodup :=
    (pairwise_walk tree location).imp fun before same => absurd (same ▸ before) (lt_irrefl _)
  have rearranged := (List.perm_ext_iff_of_nodup (nodup_stylesheetsBelow tree location)
    distinct).mpr fun _ => mem_walk_iff.symm
  exact rearranged.eq_of_pairwise (fun _ _ _ _ before after => absurd after (lt_asymm before))
    (pairwise_stylesheetsBelow tree location) (pairwise_walk tree location)

end FileTree

end DesignTokens
