import DesignTokens.Proofs.Theme.References

/-!
# What the settings of a theme hold

A token belongs at one place of the settings at most: the named tokens of the categories with
presets in the lists of their sections, all tokens of five other categories in the groups of the
custom settings. The settings have a place exactly when some token belongs there, so that nothing
in them is empty. What they hold are all tokens but those of the stacking order and the unnamed
ones of the categories with presets.
-/

namespace DesignTokens

namespace Json

/-- A document in which no list and no object is empty, however deep. -/
inductive Filled : Json -> Prop where
  | null : Filled .null
  | boolean (value : Bool) : Filled (.boolean value)
  | number (value : JsonNumber) : Filled (.number value)
  | string (value : Text) : Filled (.string value)
  | array {items : List Json} (some : items ≠ []) (each : ∀ item ∈ items, Filled item) :
      Filled (.array items)
  | object {members : List (Text × Json)} (some : members ≠ [])
      (each : ∀ entry ∈ members, Filled entry.2) : Filled (.object members)

/-- The items of a list; other documents have none. -/
def items : Json -> List Json
  | .array items => items
  | _ => []

end Json

namespace Config

/-- A config has as many tokens as all categories together. -/
theorem tokenCount_eq (config : Config) :
    config.tokenCount =
      (Category.all.map fun category => (config.tokensOf category).length).sum := by
  have sizes : ∀ category, (config.tokensOf category).length = (config.group category).size :=
    fun _ => List.length_map Prod.snd
  simp only [sizes]
  rw [← config.sum_groups fun _ => rfl, tokenCount, List.sum_eq_foldl, List.foldl_map]

/-- A category has as many presets as named tokens. -/
theorem length_presets (config : Config) (category : Category) :
    (config.presets category).length = (config.tokensOf category).countP Token.isNamed := by
  rw [presets_eq, List.length_filterMap_eq_countP]
  refine List.countP_congr fun token _ => ?_
  cases token <;> simp [Preset.ofToken?, Token.isNamed]

/-- A category has presets exactly when one of its tokens is named. -/
theorem presets_ne_nil_iff {config : Config} {category : Category} :
    config.presets category ≠ [] ↔ ∃ token ∈ config.tokensOf category, token.isNamed = true := by
  rw [← List.length_pos_iff, length_presets, List.countP_pos_iff]

end Config

namespace Theme

open Json

/-- Where in the settings a token belongs: the name of a section, and that of a part of it. -/
def place? (category : Category) (token : Token) : Option (Text × Text) :=
  match slot? category with
  | some slot => if token.isNamed then some (slot.sectionName, slot.listName) else none
  | none => if category = .zIndex then none else some (text "custom", category.name)

/-- The parts of all sections of settings, each with its place. -/
def parts (settings : List (Text × Json)) : List ((Text × Text) × Json) :=
  settings.flatMap fun group => group.2.members.map fun part => ((group.1, part.1), part.2)

/-- The number of entries in the lists of settings. -/
def presetEntries (settings : List (Text × Json)) : Nat :=
  ((parts settings).map fun part => part.2.items.length).sum

/-- The number of members in the groups of settings. -/
def customEntries (settings : List (Text × Json)) : Nat :=
  ((parts settings).map fun part => part.2.members.length).sum

section Rows

variable {rows : List (Text × List (Text × Json))}

/-- The parts of what is written are the members of the rows. -/
theorem parts_written :
    parts (written rows) =
      rows.flatMap fun row => row.2.map fun part => ((row.1, part.1), part.2) := by
  rw [parts, written, List.flatMap_assoc]
  refine List.flatMap_congr fun row _ => ?_
  unfold objectMember
  split
  next none => simp [List.isEmpty_iff.mp none]
  next => simp [Json.members]

/-- Rows of filled members are written without anything empty. -/
theorem filled_written (each : ∀ row ∈ rows, ∀ entry ∈ row.2, entry.2.Filled) :
    ∀ entry ∈ written rows, entry.2.Filled := by
  intro entry member
  obtain ⟨row, listed, inside⟩ := List.mem_flatMap.mp member
  unfold objectMember at inside
  split at inside
  next => cases inside
  next some =>
    rw [List.mem_singleton.mp inside]
    exact .object (mt List.isEmpty_iff.mpr some) (each row listed)

end Rows

/-- A list of presets is written filled, and its entries are. -/
theorem filled_presetMember (config : Config) (name valueName : Text) (category : Category) :
    ∀ entry ∈ presetMember config name valueName category, entry.2.Filled := by
  intro entry member
  unfold presetMember listMember at member
  split at member
  next => cases member
  next some =>
    rw [List.mem_singleton.mp member]
    refine .array (mt List.isEmpty_iff.mpr some) fun item listed => ?_
    obtain ⟨preset, -, rfl⟩ := List.mem_map.mp listed
    refine .object (List.cons_ne_nil _ _) fun field inside => ?_
    simp only [List.mem_cons, List.not_mem_nil, or_false] at inside
    rcases inside with rfl | rfl | rfl <;> exact .string _

/-- The groups of the custom settings are written filled. -/
theorem filled_customs (config : Config) :
    ∀ entry ∈ written (customRows config), entry.2.Filled := by
  refine filled_written fun row listed entry member => ?_
  obtain ⟨category, -, rfl⟩ := List.mem_map.mp listed
  obtain ⟨token, -, rfl⟩ := List.mem_map.mp member
  exact .string token.2.value

/-- Nothing in the settings is empty. -/
theorem filled_sections (config : Config) : ∀ entry ∈ sections config, entry.2.Filled := by
  rw [sections_eq_written]
  refine filled_written fun row listed entry member => ?_
  simp only [sectionRows, List.mem_cons, List.not_mem_nil, or_false] at listed
  rcases listed with rfl | rfl | rfl | rfl
  · exact filled_presetMember config _ _ _ entry member
  · exact filled_presetMember config _ _ _ entry member
  · rcases List.mem_append.mp member with families | sizes
    · exact filled_presetMember config _ _ _ entry families
    · exact filled_presetMember config _ _ _ entry sizes
  · exact filled_customs config entry member

/-- The categories with presets and where their presets stand. -/
def slotted : List (Category × Slot) :=
  Category.all.filterMap fun category => (slot? category).map fun slot => (category, slot)

/-- The categories with presets are those with slots. -/
theorem mem_slotted_iff {category : Category} {slot : Slot} :
    (category, slot) ∈ slotted ↔ slot? category = some slot := by
  simp [slotted, Category.mem_all]

/-- The part with the presets of a category, if it has some. -/
def presetPart (config : Config) (category : Category) (slot : Slot) :
    List ((Text × Text) × Json) :=
  (presetMember config slot.listName slot.valueName category).map fun part =>
    ((slot.sectionName, part.1), part.2)

/-- The part with the custom settings of a category, if it has some. -/
def customPart (config : Config) (category : Category) : List ((Text × Text) × Json) :=
  (objectMember category.name (config.customValues category)).map fun part =>
    ((text "custom", part.1), part.2)

/-- The parts of the settings are the presets of one category after the other and then the
custom settings of one category after the other. -/
theorem parts_sections (config : Config) :
    parts (sections config) =
      slotted.flatMap (fun entry => presetPart config entry.1 entry.2) ++
        Category.customSettings.flatMap (customPart config) := by
  have customs : (written (customRows config)).map
      (fun part => ((text "custom", part.1), part.2)) =
        Category.customSettings.flatMap (customPart config) := by
    rw [written, customRows, List.flatMap_map, List.map_flatMap]
    rfl
  rw [sections_eq_written, parts_written, ← customs]
  simp [sectionRows, slotted, slot?, Category.all, presetPart]

/-- The place of a part with presets. -/
theorem mem_places_presetPart_iff {config : Config} {category : Category} {slot : Slot}
    {place : Text × Text} :
    place ∈ (presetPart config category slot).map Prod.fst ↔
      place = (slot.sectionName, slot.listName) ∧
        ∃ token ∈ config.tokensOf category, token.isNamed = true := by
  rw [← Config.presets_ne_nil_iff]
  unfold presetPart presetMember listMember
  cases config.presets category <;> simp

/-- The place of a part with custom settings. -/
theorem mem_places_customPart_iff {config : Config} {category : Category} {place : Text × Text} :
    place ∈ (customPart config category).map Prod.fst ↔
      place = (text "custom", category.name) ∧ ∃ token, token ∈ config.tokensOf category := by
  have empty : (config.customValues category).isEmpty = (config.tokensOf category).isEmpty := by
    simp [Config.customValues, Config.tokensOf]
  rw [← List.isEmpty_eq_false_iff_exists_mem, ← empty]
  unfold customPart objectMember
  cases (config.customValues category).isEmpty <;> simp

/-- The categories of the custom settings are those without presets, except the stacking order. -/
theorem mem_customSettings_iff {category : Category} :
    category ∈ Category.customSettings ↔ slot? category = none ∧ category ≠ .zIndex := by
  cases category <;> simp [Category.customSettings, slot?]

/-- A token of a category with presets belongs to its presets if it is named. -/
theorem place?_of_slot {category : Category} {slot : Slot} (found : slot? category = some slot)
    {token : Token} {place : Text × Text} :
    place? category token = some place ↔
      place = (slot.sectionName, slot.listName) ∧ token.isNamed = true := by
  simp only [place?, found]
  cases token.isNamed with
  | true => simpa using eq_comm
  | false => simp

/-- A token of another category belongs to the custom settings, unless it is of the stacking
order. -/
theorem place?_of_no_slot {category : Category} (slotless : slot? category = none)
    {token : Token} {place : Text × Text} :
    place? category token = some place ↔
      place = (text "custom", category.name) ∧ category ≠ .zIndex := by
  simp only [place?, slotless]
  by_cases stacking : category = .zIndex
  · simp [stacking]
  · simpa [stacking] using eq_comm

/-- The settings have the places where tokens belong. -/
theorem mem_places_iff (config : Config) (place : Text × Text) :
    place ∈ (parts (sections config)).map Prod.fst ↔
      ∃ category, ∃ token ∈ config.tokensOf category, place? category token = some place := by
  rw [parts_sections, List.map_append, List.mem_append, List.map_flatMap, List.map_flatMap,
    List.mem_flatMap, List.mem_flatMap]
  simp only [mem_places_presetPart_iff, mem_places_customPart_iff]
  constructor
  · rintro (⟨⟨category, slot⟩, listed, here, token, member, named⟩ |
      ⟨category, listed, here, token, member⟩)
    · have found : slot? category = some slot := mem_slotted_iff.mp listed
      exact ⟨category, token, member, (place?_of_slot found).mpr ⟨here, named⟩⟩
    · obtain ⟨slotless, other⟩ := mem_customSettings_iff.mp listed
      exact ⟨category, token, member, (place?_of_no_slot slotless).mpr ⟨here, other⟩⟩
  · rintro ⟨category, token, member, belongs⟩
    cases found : slot? category with
    | some slot =>
        obtain ⟨here, named⟩ := (place?_of_slot found).mp belongs
        exact .inl ⟨(category, slot), mem_slotted_iff.mpr found, here, token, member, named⟩
    | none =>
        obtain ⟨here, other⟩ := (place?_of_no_slot found).mp belongs
        exact .inr ⟨category, mem_customSettings_iff.mpr ⟨found, other⟩, here, token, member⟩

/-- What is summed up over the parts of the settings is summed up over the presets and the custom
settings of one category after the other. -/
theorem sum_parts (config : Config) (count : Json -> Nat) :
    ((parts (sections config)).map fun part => count part.2).sum =
      (slotted.map fun entry =>
          ((presetPart config entry.1 entry.2).map fun part => count part.2).sum).sum +
        (Category.customSettings.map fun category =>
          ((customPart config category).map fun part => count part.2).sum).sum := by
  rw [parts_sections, List.map_append, List.sum_append, List.map_flatMap, List.map_flatMap,
    List.flatMap, List.flatMap, List.sum_flatten, List.sum_flatten, List.map_map, List.map_map]
  rfl

/-- The lists of the settings have an entry for each named token of a category with presets. -/
theorem presetEntries_sections (config : Config) :
    presetEntries (sections config) =
      (slotted.map fun entry => (config.tokensOf entry.1).countP Token.isNamed).sum := by
  have lists (category : Category) (slot : Slot) :
      ((presetPart config category slot).map fun part => part.2.items.length).sum =
        (config.tokensOf category).countP Token.isNamed := by
    rw [← Config.length_presets]
    unfold presetPart presetMember listMember
    cases config.presets category <;> simp [Json.items]
  have groups (category : Category) :
      ((customPart config category).map fun part => part.2.items.length).sum = 0 := by
    unfold customPart objectMember
    split <;> rfl
  simp only [presetEntries, sum_parts config fun part => part.items.length, lists, groups,
    List.sum_map_zero, Nat.add_zero]

/-- The groups of the settings have a member for each token of their categories. -/
theorem customEntries_sections (config : Config) :
    customEntries (sections config) =
      (Category.customSettings.map fun category => (config.tokensOf category).length).sum := by
  have lists (category : Category) (slot : Slot) :
      ((presetPart config category slot).map fun part => part.2.members.length).sum = 0 := by
    unfold presetPart presetMember listMember
    split <;> rfl
  have groups (category : Category) :
      ((customPart config category).map fun part => part.2.members.length).sum =
        (config.tokensOf category).length := by
    have values : (config.customValues category).length = (config.tokensOf category).length := by
      simp [Config.customValues, Config.tokensOf]
    rw [← values]
    unfold customPart objectMember
    cases config.customValues category <;> simp [Json.members]
  simp only [customEntries, sum_parts config fun part => part.members.length, lists, groups,
    List.sum_map_zero, Nat.zero_add]

/-- The sections of the settings are those of their places: none is empty. -/
theorem mem_names_iff (config : Config) (name : Text) :
    name ∈ (sections config).map Prod.fst ↔
      ∃ part, (name, part) ∈ (parts (sections config)).map Prod.fst := by
  have filled := filled_sections config
  simp only [parts, List.map_flatMap, List.mem_flatMap, List.mem_map]
  constructor
  · rintro ⟨entry, listed, rfl⟩
    obtain ⟨name, content⟩ := entry
    obtain ⟨members, rfl⟩ : ∃ members, content = .object members := by
      rw [sections_eq_written] at listed
      obtain ⟨members, -, object⟩ := mem_written listed
      exact ⟨members, object⟩
    cases filled _ listed with
    | object some each =>
        obtain ⟨part, member⟩ := List.exists_mem_of_ne_nil members some
        exact ⟨part.1, _, listed, _, ⟨part, member, rfl⟩, rfl⟩
  · rintro ⟨part, entry, listed, _, ⟨_, _, rfl⟩, same⟩
    exact ⟨entry, listed, (Prod.mk.inj same).1⟩

end Theme

/-- Nothing in the settings of a theme is empty. They have a section, and a place in it, exactly
when some token belongs there. Their lists and their groups of custom settings hold as many tokens
as the config has, without those of the stacking order and the unnamed ones of the categories with
presets. -/
theorem settings_hold_tokens (config : Config) :
    let settings := Theme.sections config
    (∀ entry ∈ settings, entry.2.Filled) ∧
      (∀ name, name ∈ settings.map Prod.fst ↔
        ∃ category, ∃ token ∈ config.tokensOf category, ∃ part,
          Theme.place? category token = some (name, part)) ∧
      (∀ place, place ∈ (Theme.parts settings).map Prod.fst ↔
        ∃ category, ∃ token ∈ config.tokensOf category,
          Theme.place? category token = some place) ∧
      Theme.presetEntries settings + Theme.customEntries settings +
          (config.tokensOf .zIndex).length +
          ([Category.color, .spacing, .fontFamily, .fontSize].map fun category =>
            (config.tokensOf category).countP fun token => !token.isNamed).sum =
        config.tokenCount := by
  refine ⟨Theme.filled_sections config, fun name => ?_, Theme.mem_places_iff config, ?_⟩
  · rw [Theme.mem_names_iff]
    simp only [Theme.mem_places_iff]
    constructor
    · rintro ⟨part, category, token, member, belongs⟩
      exact ⟨category, token, member, part, belongs⟩
    · rintro ⟨category, token, member, part, belongs⟩
      exact ⟨part, category, token, member, belongs⟩
  · have divided (category : Category) :
        (config.tokensOf category).countP Token.isNamed +
            ((config.tokensOf category).countP fun token => !token.isNamed) =
          (config.tokensOf category).length := by
      rw [List.length_eq_countP_add_countP Token.isNamed]
      simp
    rw [Theme.presetEntries_sections, Theme.customEntries_sections, Config.tokenCount_eq]
    simp only [Theme.slotted, Theme.slot?, Category.all, Category.customSettings,
      List.filterMap_cons, List.filterMap_nil, Option.map_some, Option.map_none, List.map_cons,
      List.map_nil, List.sum_cons, List.sum_nil, ← divided]
    omega

end DesignTokens
