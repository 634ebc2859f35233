import DesignTokens.FileTree.Scan
import DesignTokens.Proofs.FileTree.Way
import DesignTokens.Proofs.Path

/-!
# What a scan finds

A scan looks at what stands below the directory where it starts, on a way of plain
names. So every stylesheet that it finds is a file, the words of its path lead to it,
and the last of them is its name.
-/

namespace DesignTokens.FileTree

open DesignTokens.Path

variable {tree : FileTree} {location current : Location} {source sheet : Path}

/-- The entries of a tree are what stands in it below the root. -/
theorem mem_entries_iff {item : Item} :
    (location, item) ∈ tree.items.entries ↔ location ≠ [] ∧ tree.find? location = some item := by
  rw [← Dictionary.get?_eq_some_iff]
  by_cases root : location = []
  · subst root
    refine iff_of_false (fun found => ?_) (by simp)
    exact (tree.standing [] (Dictionary.mem_keys_of_get? found)).1 rfl
  · simp [find?, itemAt, root]

/-- A location is below another when it goes on from there. -/
theorem below_iff {key : Location} :
    (location.isPrefixOf key && key != location) = true ↔
      ∃ way, way ≠ [] ∧ key = location ++ way := by
  constructor
  · intro below
    obtain ⟨⟨way, rfl⟩, elsewhere⟩ := by simpa using below
    exact ⟨way, by simpa using elsewhere, rfl⟩
  · rintro ⟨way, further, rfl⟩
    simp [further]

/-- An entry gives rise to visits if it is below where the scan starts. -/
theorem mem_visits_iff {visit : Visit} {entry : Location × Item} :
    (visit ∈ if location.isPrefixOf entry.1 && entry.1 != location then
        Visit.ofItem (entry.1.drop location.length) entry.2
      else []) ↔
      ∃ way, way ≠ [] ∧ entry.1 = location ++ way ∧ visit ∈ Visit.ofItem way entry.2 := by
  obtain ⟨key, item⟩ := entry
  split
  next below =>
    obtain ⟨way, further, rfl⟩ := below_iff.mp below
    simp [further]
  next outside =>
    refine iff_of_false List.not_mem_nil ?_
    rintro ⟨way, further, rfl, -⟩
    exact outside (below_iff.mpr ⟨way, further, rfl⟩)

/-- A scan makes the visits that whatever stands on a way below where it starts gives rise
to. -/
theorem mem_visitsBelow_iff {visit : Visit} :
    visit ∈ tree.visitsBelow location ↔
      ∃ way item, way ≠ [] ∧ tree.find? (location ++ way) = some item ∧
        visit ∈ Visit.ofItem way item := by
  unfold visitsBelow
  simp only [List.mem_mergeSort, List.mem_flatMap, mem_visits_iff]
  constructor
  · rintro ⟨⟨_, item⟩, member, way, further, rfl, visited⟩
    exact ⟨way, item, further, (mem_entries_iff.mp member).2, visited⟩
  · rintro ⟨way, item, further, found, visited⟩
    have member := mem_entries_iff.mpr ⟨List.append_ne_nil_of_right_ne_nil location further, found⟩
    exact ⟨_, member, way, further, rfl, visited⟩

/-- A scan looks at whatever stands on a way below where it starts, if the last name on
the way is that of a stylesheet. -/
theorem seen_mem_visitsBelow_iff {way : Location} {item : Item} :
    Visit.seen way item ∈ tree.visitsBelow location ↔
      way ≠ [] ∧ tree.find? (location ++ way) = some item ∧
        isStylesheetName (way.getLast?.getD []) = true := by
  have seen_mem_ofItem (onTheWay : Location) (other : Item) :
      Visit.seen way item ∈ Visit.ofItem onTheWay other ↔
        way = onTheWay ∧ item = other ∧ isStylesheetName (way.getLast?.getD []) = true := by
    unfold Visit.ofItem
    split <;> split <;> simp_all
  simp only [mem_visitsBelow_iff, seen_mem_ofItem]
  constructor
  · rintro ⟨_, _, further, found, rfl, rfl, named⟩
    exact ⟨further, found, named⟩
  · rintro ⟨further, found, named⟩
    exact ⟨way, item, further, found, rfl, rfl, named⟩

/-- A visit is that of a stylesheet when a file is looked at. -/
theorem stylesheet?_eq_some_iff {visit : Visit} {way : Location} :
    visit.stylesheet? = some way ↔ ∃ content, visit = .seen way (.file content) := by
  cases visit with
  | entered onTheWay => simp [Visit.stylesheet?]
  | seen onTheWay item => cases item <;> simp [Visit.stylesheet?]

/-- A scan of a directory finds the stylesheets among its visits, in their order. -/
theorem findStylesheets_of_visitsBelow {visits : List Visit}
    (located : tree.locate current source = .ok location)
    (directory : tree.find? location = some .directory)
    (visited : tree.visitsBelow location = visits)
    (short : ∀ visit ∈ visits, pathTooLong (onward source visit.way) = false) :
    tree.findStylesheets current source =
      .ok ((visits.filterMap Visit.stylesheet?).map (onward source)) := by
  have passes : (visits.find? fun visit => pathTooLong (onward source visit.way)) = none :=
    List.find?_eq_none.mpr fun visit member => by simp [short visit member]
  unfold findStylesheets
  simp only [located, directory, visited, passes, if_true]

/-- Every stylesheet that is found stands on a way below where the scan starts. -/
theorem exists_way_of_mem_findStylesheets {sheets : List Path}
    (found : tree.findStylesheets current source = .ok sheets) (member : sheet ∈ sheets) :
    ∃ way content, sheet = onward source way ∧ way ≠ [] ∧
      tree.find? (source.locationOf current ++ way) = some (.file content) ∧
      isStylesheetName (way.getLast?.getD []) = true := by
  unfold findStylesheets at found
  split at found
  next location located =>
    obtain ⟨-, -, rfl⟩ := locate_eq_ok_iff.mp located
    split at found
    next =>
      simp only at found
      split at found
      next => cases found
      next =>
        cases found
        obtain ⟨way, visited, rfl⟩ := List.mem_map.mp member
        obtain ⟨visit, among, isSheet⟩ := List.mem_filterMap.mp visited
        obtain ⟨content, rfl⟩ := stylesheet?_eq_some_iff.mp isSheet
        obtain ⟨further, stands, named⟩ := seen_mem_visitsBelow_iff.mp among
        exact ⟨way, content, rfl, further, stands, named⟩
    next =>
      cases found
      cases member
  next => cases found
  next =>
    cases found
    cases member

/-- A path that goes on from another, on a way to where something stands, leads there. -/
theorem locationOf_onward {way : Location} {item : Item} (further : way ≠ [])
    (stands : tree.find? (source.locationOf current ++ way) = some item) :
    (onward source way).locationOf current = source.locationOf current ++ way := by
  have below : source.locationOf current ++ way ≠ [] := by simp [further]
  have plain : up ∉ way := fun up =>
    (standing_of_find? stands below).2.1 (List.mem_append_right _ up)
  rw [locationOf, onward, List.foldl_append]
  exact foldl_advance plain _

/-- Whatever is found stands below where the scan starts. -/
theorem below_of_mem_findStylesheets {sheets : List Path}
    (found : tree.findStylesheets current source = .ok sheets) (member : sheet ∈ sheets) :
    source.locationOf current <+: sheet.locationOf current := by
  obtain ⟨way, content, rfl, further, stands, -⟩ := exists_way_of_mem_findStylesheets found member
  rw [locationOf_onward further stands]
  exact List.prefix_append _ _

/-- A stylesheet stands where a path leads, under the name at the end of the path. -/
structure HasStylesheet (tree : FileTree) (current : Location) (sheet : Path) (content : Bytes) :
    Prop where
  found : tree.find? (sheet.locationOf current) = some (.file content)
  last : (sheet.locationOf current).getLast? = some sheet.name
  named : isStylesheetName sheet.name = true

/-- Every path that is found leads to a stylesheet. -/
theorem hasStylesheet_of_mem_findStylesheets {sheets : List Path}
    (found : tree.findStylesheets current source = .ok sheets) (member : sheet ∈ sheets) :
    ∃ content, tree.HasStylesheet current sheet content := by
  obtain ⟨way, content, rfl, further, stands, named⟩ :=
    exists_way_of_mem_findStylesheets found member
  have ends := locationOf_onward further stands
  obtain ⟨before, last, rfl⟩ : ∃ before last, way = before ++ [last] :=
    ⟨_, _, (List.dropLast_append_getLast further).symm⟩
  have name : (onward source (before ++ [last])).name = last := by
    simp [Path.name, onward]
  refine ⟨content, ends ▸ stands, ?_, ?_⟩
  · rw [ends, name]
    simp
  · rw [name]
    simpa using named

end DesignTokens.FileTree
