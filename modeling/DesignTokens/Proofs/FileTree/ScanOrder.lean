import DesignTokens.Proofs.FileTree.Scan
import DesignTokens.Proofs.Text.Order
import Mathlib.Data.List.Nodup
import Mathlib.Data.List.Sort
import Mathlib.Data.Prod.Lex

/-!
# The order of a scan

A scan visits everything once, in the strict order of the trails. So the stylesheets that it
finds are determined by the files below where it starts: neither the order in which the tree
lists what it holds nor directories without files make a difference.
-/

namespace DesignTokens

namespace Visit

/-- The place of a visit in a scan: its trail, as lists of marks and names are ordered. -/
def place (visit : Visit) : List (Bool ×ₗ Text) :=
  visit.trail.map toLex

/-- Trails come no later than others as lists of marks with names do. -/
theorem trailNoLater_iff {first second : List (Bool × Text)} :
    trailNoLater first second = true ↔ first.map toLex ≤ second.map toLex := by
  fun_induction trailNoLater first second with
  | case1 second => simp [nil_le_list]
  | case2 mark rest => simp [not_cons_le_nil]
  | case3 rest mark others ih => simp [ih, cons_le_cons_iff]
  | case4 mark rest other others different alike =>
      have marks : toLex mark ≠ toLex other := by simpa using different
      have names : mark.2 ≠ other.2 := fun same => different (Prod.ext alike same)
      simp [cons_le_cons_iff, Prod.Lex.toLex_lt_toLex, Text.noLater_iff, alike, marks,
        names.le_iff_lt]
  | case5 mark rest other others different unlike =>
      have marks : toLex mark ≠ toLex other := by simpa using different
      obtain ⟨⟨entered, name⟩, ⟨otherEntered, otherName⟩⟩ := mark, other
      cases entered <;> cases otherEntered <;>
        simp_all [cons_le_cons_iff, Prod.Lex.toLex_lt_toLex]

/-- The order of visits is that of their places. -/
theorem noLater_iff {first second : Visit} :
    first.noLater second = true ↔ first.place ≤ second.place :=
  trailNoLater_iff

/-- The names of a trail are those on the way. -/
theorem names_trail (visit : Visit) : visit.trail.map Prod.snd = visit.way := by
  cases visit with
  | seen way item =>
      cases way using List.reverseRecOn with
      | nil => rfl
      | append_singleton names last => simp [trail, Visit.way, Function.comp_def]
  | entered way => simp [trail, Visit.way, Function.comp_def]

/-- Visits in one place are on one way. -/
theorem way_eq_of_place {first second : Visit} (same : first.place = second.place) :
    first.way = second.way := by
  have trails : first.trail = second.trail := List.map_injective_iff.mpr toLex.injective same
  rw [← names_trail first, ← names_trail second, trails]

/-- To look at an entry and to enter a directory are visits in different places. -/
theorem place_seen_ne_entered {way : Location} (item : Item) (further : way ≠ []) :
    (seen way item).place ≠ (entered way).place := by
  intro same
  have trails : (seen way item).trail = (entered way).trail :=
    List.map_injective_iff.mpr toLex.injective same
  obtain ⟨names, last, rfl⟩ : ∃ names last, way = names ++ [last] :=
    ⟨_, _, (List.dropLast_append_getLast further).symm⟩
  simp [trail] at trails

/-- The visits that an item gives rise to are in different places. -/
theorem nodup_places_ofItem {way : Location} (item : Item) (further : way ≠ []) :
    ((ofItem way item).map place).Nodup := by
  unfold ofItem
  split <;> split <;> simp [place_seen_ne_entered item further]

/-- They are all on the way to the item. -/
theorem way_of_mem_ofItem {way : Location} {item : Item} {visit : Visit}
    (member : visit ∈ ofItem way item) : visit.way = way := by
  have either : visit = seen way item ∨ visit = entered way := by
    unfold ofItem at member
    split at member <;> split at member <;> simp_all
  rcases either with rfl | rfl <;> rfl

end Visit

namespace FileTree

open DesignTokens.Path

variable {tree other : FileTree} {location current : Location} {source : Path}

/-- No two visits of a scan are in one place. -/
theorem nodup_places (tree : FileTree) (location : Location) :
    ((tree.visitsBelow location).map Visit.place).Nodup := by
  have rearranged : (tree.visitsBelow location).Perm _ := List.mergeSort_perm _ _
  rw [(rearranged.map Visit.place).nodup_iff, List.map_flatMap, List.nodup_flatMap]
  have locations : tree.items.entries.Pairwise fun first second => first.1 ≠ second.1 :=
    List.pairwise_map.mp tree.items.distinct
  refine ⟨fun entry _ => ?_, locations.imp fun {first second} different => ?_⟩
  · split
    next below =>
      obtain ⟨way, further, here⟩ := below_iff.mp below
      rw [here, List.drop_left]
      exact Visit.nodup_places_ofItem entry.2 further
    next => exact List.nodup_nil
  · -- What is visited on one way from the same location stands at one location.
    intro place member again
    obtain ⟨visit, visited, rfl⟩ := List.mem_map.mp member
    obtain ⟨another, others, same⟩ := List.mem_map.mp again
    obtain ⟨way, -, here, visited⟩ := mem_visits_iff.mp visited
    obtain ⟨next, -, there, others⟩ := mem_visits_iff.mp others
    have ways : way = next := by
      rw [← Visit.way_of_mem_ofItem visited, ← Visit.way_of_mem_ofItem others,
        Visit.way_eq_of_place same]
    exact different (here.trans (ways ▸ there.symm))

/-- A scan goes strictly by the places of its visits. -/
theorem pairwise_visitsBelow (tree : FileTree) (location : Location) :
    (tree.visitsBelow location).Pairwise fun first second => first.place < second.place := by
  have sorted : (tree.visitsBelow location).Pairwise fun first second =>
      first.place ≤ second.place := by
    refine (List.pairwise_mergeSort (fun _ _ _ => ?_) (fun _ _ => ?_) _).imp Visit.noLater_iff.mp
    · simpa only [Visit.noLater_iff] using le_trans
    · simpa only [Bool.or_eq_true, Visit.noLater_iff] using le_total _ _
  have distinct := List.pairwise_map.mp (nodup_places tree location)
  exact (sorted.and distinct).imp fun both => lt_of_le_of_ne both.1 both.2

/-- The ways to the stylesheets below a location, in the order of a scan. -/
def stylesheetsBelow (tree : FileTree) (location : Location) : List Location :=
  (tree.visitsBelow location).filterMap Visit.stylesheet?

/-- The stylesheets below a location are the files there whose names are those of
stylesheets. -/
theorem mem_stylesheetsBelow_iff {way : Location} :
    way ∈ tree.stylesheetsBelow location ↔
      way ≠ [] ∧ (∃ content, tree.find? (location ++ way) = some (.file content)) ∧
        isStylesheetName (way.getLast?.getD []) = true := by
  simp only [stylesheetsBelow, List.mem_filterMap, stylesheet?_eq_some_iff]
  constructor
  · rintro ⟨_, member, content, rfl⟩
    obtain ⟨further, found, named⟩ := seen_mem_visitsBelow_iff.mp member
    exact ⟨further, ⟨content, found⟩, named⟩
  · rintro ⟨further, ⟨content, found⟩, named⟩
    exact ⟨_, seen_mem_visitsBelow_iff.mpr ⟨further, found, named⟩, content, rfl⟩

/-- They come strictly by their places. -/
theorem pairwise_stylesheetsBelow (tree : FileTree) (location : Location) :
    (tree.stylesheetsBelow location).Pairwise fun first second =>
      (Visit.seen first .directory).place < (Visit.seen second .directory).place := by
  refine List.pairwise_filterMap.mpr ((pairwise_visitsBelow tree location).imp ?_)
  intro first second before way isFirst next isSecond
  obtain ⟨content, rfl⟩ := stylesheet?_eq_some_iff.mp isFirst
  obtain ⟨others, rfl⟩ := stylesheet?_eq_some_iff.mp isSecond
  exact before

/-- No stylesheet is found twice. -/
theorem nodup_stylesheetsBelow (tree : FileTree) (location : Location) :
    (tree.stylesheetsBelow location).Nodup :=
  (pairwise_stylesheetsBelow tree location).imp fun before same => absurd (same ▸ before) (lt_irrefl _)

/-- Trees with the same files below a location have the same stylesheets there, in the same
order. -/
theorem stylesheetsBelow_congr
    (same : ∀ way, (∃ content, tree.find? (location ++ way) = some (.file content)) ↔
      ∃ content, other.find? (location ++ way) = some (.file content)) :
    tree.stylesheetsBelow location = other.stylesheetsBelow location := by
  have members : ∀ way, way ∈ tree.stylesheetsBelow location ↔
      way ∈ other.stylesheetsBelow location := by
    simp only [mem_stylesheetsBelow_iff, same, implies_true]
  have rearranged := (List.perm_ext_iff_of_nodup (nodup_stylesheetsBelow tree location)
    (nodup_stylesheetsBelow other location)).mpr members
  exact rearranged.eq_of_pairwise (fun _ _ _ _ before after => absurd after (lt_asymm before))
    (pairwise_stylesheetsBelow tree location) (pairwise_stylesheetsBelow other location)

/-- A scan went through: it starts from a directory, no visit was too far off, and it has
found the stylesheets below. -/
structure Scanned (tree : FileTree) (current : Location) (source : Path) (sheets : List Path) :
    Prop where
  located : tree.locate current source = .ok (source.locationOf current)
  directory : tree.find? (source.locationOf current) = some .directory
  short : ∀ visit ∈ tree.visitsBelow (source.locationOf current),
    pathTooLong (onward source visit.way) = false
  listed : sheets = (tree.stylesheetsBelow (source.locationOf current)).map (onward source)

variable {sheets : List Path}

/-- Nothing is found twice. -/
theorem Scanned.nodup (scanned : tree.Scanned current source sheets) : sheets.Nodup := by
  have injective : Function.Injective (onward source) := by
    intro first second same
    simpa [onward] using same
  rw [scanned.listed]
  exact (nodup_stylesheetsBelow tree _).map injective

/-- The last name on a way is that of the path which goes on along it. -/
theorem getLast?_eq_name_onward {way : Location} (further : way ≠ []) :
    way.getLast? = some (onward source way).name := by
  obtain ⟨names, last, rfl⟩ : ∃ names last, way = names ++ [last] :=
    ⟨_, _, (List.dropLast_append_getLast further).symm⟩
  simp [onward, Path.name]

/-- A scan that starts from a directory and is not refused went through. -/
theorem scanned_of_located (located : tree.locate current source = .ok location)
    (directory : tree.find? location = some .directory)
    (found : tree.findStylesheets current source = .ok sheets) :
    tree.Scanned current source sheets := by
  obtain ⟨-, -, rfl⟩ := locate_eq_ok_iff.mp located
  simp only [findStylesheets, located, directory, if_true] at found
  split at found
  next => cases found
  next passes =>
    cases found
    refine ⟨located, directory, fun visit member => ?_, rfl⟩
    simpa using List.find?_eq_none.mp passes visit member

/-- A scan that has found anything went through. -/
theorem scanned_of_findStylesheets (found : tree.findStylesheets current source = .ok sheets)
    (present : sheets ≠ []) : tree.Scanned current source sheets := by
  cases located : tree.locate current source with
  | ok location =>
      by_cases directory : tree.find? location = some .directory
      · exact scanned_of_located located directory found
      · simp only [findStylesheets, located, directory, if_false] at found
        exact absurd (Except.ok.inj found).symm present
  | error fault =>
      unfold findStylesheets at found
      rw [located] at found
      split at found
      next => contradiction
      next => cases found
      next => exact absurd (Except.ok.inj found).symm present

/-- A scan with a visit that is too far off is refused, and names the path of such a visit. -/
theorem exists_refused_visit {visit : Visit}
    (located : tree.locate current source = .ok location)
    (directory : tree.find? location = some .directory)
    (member : visit ∈ tree.visitsBelow location)
    (long : pathTooLong (onward source visit.way) = true) :
    ∃ refused ∈ tree.visitsBelow location, pathTooLong (onward source refused.way) = true ∧
      tree.findStylesheets current source =
        .error (.system .nameTooLong (onward source refused.way)) := by
  cases stops : (tree.visitsBelow location).find? fun visit =>
      pathTooLong (onward source visit.way) with
  | none => exact absurd long (List.find?_eq_none.mp stops visit member)
  | some first =>
      have tooLong := List.find?_some stops
      refine ⟨first, List.mem_of_find?_eq_some stops, tooLong, ?_⟩
      simp only [findStylesheets, located, directory, stops, if_true]

/-- A scan with a visit that is too far off is refused. -/
theorem findStylesheets_of_tooLong {visit : Visit}
    (located : tree.locate current source = .ok location)
    (directory : tree.find? location = some .directory)
    (member : visit ∈ tree.visitsBelow location)
    (long : pathTooLong (onward source visit.way) = true) :
    ∃ refused, tree.findStylesheets current source = .error (.system .nameTooLong refused) := by
  obtain ⟨first, -, -, refused⟩ := exists_refused_visit located directory member long
  exact ⟨_, refused⟩

/-- Where new directories are all that a tree has got below the start of a scan, another scan
finds the same, unless one of them is too far off. -/
theorem Scanned.again (scanned : tree.Scanned current source sheets)
    (directories : ∀ asked, tree.find? asked = some .directory →
      other.find? asked = some .directory)
    (grew : ∀ way, other.find? (source.locationOf current ++ way) =
        tree.find? (source.locationOf current ++ way) ∨
      tree.find? (source.locationOf current ++ way) = none ∧
        other.find? (source.locationOf current ++ way) = some .directory) :
    other.findStylesheets current source = .ok sheets ∨
      ∃ way, other.find? (source.locationOf current ++ way) ≠
          tree.find? (source.locationOf current ++ way) ∧
        pathTooLong (onward source way) = true ∧
        other.findStylesheets current source =
          .error (.system .nameTooLong (onward source way)) := by
  have located := locate_of_directories scanned.located fun asked above =>
    directories asked ((locate_eq_ok_iff.mp scanned.located).2.1 asked above)
  have directory := directories _ scanned.directory
  cases passes : (other.visitsBelow (source.locationOf current)).find? fun visit =>
      pathTooLong (onward source visit.way) with
  | none =>
      have files (way : Location) :
          (∃ content, tree.find? (source.locationOf current ++ way) = some (.file content)) ↔
            ∃ content, other.find? (source.locationOf current ++ way) = some (.file content) := by
        rcases grew way with same | ⟨nothing, made⟩
        · rw [same]
        · simp [nothing, made]
      refine .inl ?_
      rw [scanned.listed, stylesheetsBelow_congr files]
      exact findStylesheets_of_visitsBelow located directory rfl fun visit member => by
        simpa using List.find?_eq_none.mp passes visit member
  | some visit =>
      have long := List.find?_some passes
      obtain ⟨way, item, further, found, visited⟩ :=
        mem_visitsBelow_iff.mp (List.mem_of_find?_eq_some passes)
      obtain rfl := Visit.way_of_mem_ofItem visited
      refine .inr ⟨visit.way, fun same => ?_, long, ?_⟩
      · have earlier : visit ∈ tree.visitsBelow (source.locationOf current) :=
          mem_visitsBelow_iff.mpr ⟨_, item, further, same ▸ found, visited⟩
        simp [scanned.short visit earlier] at long
      · simp only [findStylesheets, located, directory, passes, if_true]

end FileTree

end DesignTokens
