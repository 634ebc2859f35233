import DesignTokens.Proofs.Theme.RoundTrip

/-!
# What a theme file depends on

Two configs have the same theme file exactly when they have the same named tokens
in each category with presets and the same values under the same keys in each
category of the custom settings. One direction needs that printing loses nothing,
also where sections are left out; the other that nothing else is ever looked at.
-/

namespace DesignTokens

namespace TokenGroup

/-- The slug, the value and the name of each named token, in order. -/
def namedTokens (group : TokenGroup) : List (Text × Text × Text) :=
  group.entries.filterMap fun entry =>
    match entry.2 with
    | .named value name slug => some (slug.content, value, name.content)
    | .unnamed _ => none

/-- The key and the value of each token, in order. -/
def keyedValues (group : TokenGroup) : List (Text × Text) :=
  group.entries.map fun entry => (entry.1, entry.2.value)

end TokenGroup

/-- Dictionaries with the same entries in any order have the same values. -/
theorem Dictionary.get?_of_perm {Key Value : Type} [DecidableEq Key]
    {first second : Dictionary Key Value} (same : first.entries.Perm second.entries) (key : Key) :
    first.get? key = second.get? key := by
  ext value
  rw [Dictionary.get?_eq_some_iff, Dictionary.get?_eq_some_iff, same.mem_iff]

/-- The config with other tokens in a category. -/
def Config.withGroup (config : Config) (category : Category) (group : TokenGroup) : Config :=
  { config with tokens := config.tokens.put category group }

/-- Other tokens in a category leave those of all other categories alone. -/
theorem Config.group_withGroup (config : Config) (category asked : Category) (group : TokenGroup) :
    (config.withGroup category group).group asked =
      if asked = category then group else config.group asked := by
  rw [Config.group, Config.withGroup, Dictionary.get?_put]
  split <;> rfl

namespace Theme

open Json

/-- The presets of a category hold its named tokens and nothing else. -/
theorem presets_eq_iff (first second : Config) (category : Category) :
    first.presets category = second.presets category ↔
      (first.group category).namedTokens = (second.group category).namedTokens := by
  let fields : Preset -> Text × Text × Text :=
    fun preset => (preset.slug, preset.value, preset.name)
  have fieldsInjective : Function.Injective fields := by
    rintro ⟨slug, value, name⟩ ⟨slug', value', name'⟩ same
    simpa [fields] using same
  have named : ∀ config : Config,
      (config.group category).namedTokens = (config.presets category).map fields := by
    intro config
    rw [TokenGroup.namedTokens, Config.presets, List.map_filterMap]
    congr 1
    funext entry
    cases entry.2 <;> rfl
  rw [named, named, List.map_inj_right fieldsInjective]

/-- The custom settings of a category hold its values under their keys and nothing else. -/
theorem customValues_eq_iff (first second : Config) (category : Category) :
    first.customValues category = second.customValues category ↔
      (first.group category).keyedValues = (second.group category).keyedValues := by
  let member : Text × Text -> Text × Json := fun pair => (pair.1, .string pair.2)
  have memberInjective : Function.Injective member := by
    rintro ⟨key, value⟩ ⟨key', value'⟩ same
    simpa [member] using same
  have custom : ∀ config : Config,
      config.customValues category = (config.group category).keyedValues.map member := by
    intro config
    simp [TokenGroup.keyedValues, Config.customValues, member]
  rw [custom, custom, List.map_inj_right memberInjective]

/-- A preset is determined by its entry. -/
theorem preset_document_injective (valueName : Text) :
    Function.Injective (Preset.document valueName) := by
  rintro ⟨slug, value, name⟩ ⟨slug', value', name'⟩ same
  simpa [Preset.document] using same

/-- The settings determine the presets of every category that has some. -/
theorem presets_of_sections {first second : Config} (same : sections first = sections second)
    {category : Category} {slot : Slot} (slotted : slot? category = some slot) :
    first.presets category = second.presets category := by
  have found := find?_slot slotted first
  rw [same, find?_slot slotted second] at found
  have lists := optional_injective (fun _ _ equal => Json.array.inj equal) found
  exact ((List.map_inj_right (preset_document_injective slot.valueName)).mp lists).symm

/-- The settings determine the values of every category of the custom settings. -/
theorem customValues_of_sections {first second : Config}
    (same : sections first = sections second) :
    ∀ category ∈ Category.customSettings,
      first.customValues category = second.customValues category := by
  intro category listed
  have custom := congrArg (fun members => (member? (text "custom") members).bind
    (field? category.name)) same
  have listedLast : ∀ config, (text "custom", written (customRows config)) ∈ sectionRows config :=
    fun _ => .tail _ (.tail _ (.tail _ (.head _)))
  simp only [member?_sections (listedLast _), bind_field?_optional,
    member?_customs _ listed] at custom
  exact optional_injective (fun _ _ equal => Json.object.inj equal) custom

/-- Presets and custom settings are all that the settings are made of. -/
theorem sections_congr {first second : Config}
    (presets : ∀ category ∈ [Category.color, .spacing, .fontFamily, .fontSize],
      first.presets category = second.presets category)
    (custom : ∀ category ∈ Category.customSettings,
      first.customValues category = second.customValues category) :
    sections first = sections second := by
  have rows : customRows first = customRows second :=
    List.map_congr_left fun category listed => by rw [custom category listed]
  have lists : sectionRows first = sectionRows second := by
    simp only [sectionRows, presetMember, presets .color (by simp), presets .spacing (by simp),
      presets .fontFamily (by simp), presets .fontSize (by simp), rows]
  rw [sections_eq_written, sections_eq_written, lists]

/-- Theme files are the same exactly when their settings are. -/
theorem content_eq_iff_sections_eq (first second : Config) :
    content first = content second ↔ sections first = sections second := by
  constructor
  · intro same
    have read := Json.read_print (wellFormed_document first) isBlank_of_mem_newline
    have other := Json.read_print (wellFormed_document second) isBlank_of_mem_newline
    rw [← content, same] at read
    have documents := Except.ok.inj (read.symm.trans other)
    simpa [document] using documents
  · intro same
    simp only [content, document, same]

/-- The categories of presets have slots. -/
theorem slotted_of_mem {category : Category}
    (listed : category ∈ [Category.color, .spacing, .fontFamily, .fontSize]) :
    ∃ slot, slot? category = some slot := by
  simp only [List.mem_cons, List.not_mem_nil, or_false] at listed
  rcases listed with rfl | rfl | rfl | rfl <;> exact ⟨_, rfl⟩

/-- Settings are the same exactly when the named tokens of the categories of presets
and the values of the categories of custom settings are. -/
theorem sections_eq_iff (first second : Config) :
    sections first = sections second ↔
      (∀ category ∈ [Category.color, .spacing, .fontFamily, .fontSize],
        (first.group category).namedTokens = (second.group category).namedTokens) ∧
      ∀ category ∈ Category.customSettings,
        (first.group category).keyedValues = (second.group category).keyedValues := by
  constructor
  · intro same
    constructor
    · intro category listed
      obtain ⟨slot, slotted⟩ := slotted_of_mem listed
      exact (presets_eq_iff first second category).mp (presets_of_sections same slotted)
    · intro category listed
      exact (customValues_eq_iff first second category).mp
        (customValues_of_sections same category listed)
  · rintro ⟨named, keyed⟩
    exact sections_congr
      (fun category listed => (presets_eq_iff first second category).mpr (named category listed))
      fun category listed => (customValues_eq_iff first second category).mpr (keyed category listed)

/-- A change of a config that touches nothing of what its theme file shows. -/
inductive HiddenChange : Config -> Config -> Prop where
  /-- Another scope and other paths. -/
  | settings (config : Config) (scope : Label) (tokensPath outDir : Text) :
      HiddenChange config { config with scope, tokensPath, outDir }
  /-- The categories in another order. -/
  | order (config : Config) (tokens : Dictionary Category TokenGroup)
      (same : config.tokens.entries.Perm tokens.entries) :
      HiddenChange config { config with tokens }
  /-- Other tokens for the stacking order. -/
  | stacking (config : Config) (group : TokenGroup) :
      HiddenChange config (config.withGroup .zIndex group)
  /-- Other keys, and other unnamed tokens, in a category of presets. -/
  | presets (config : Config) (category : Category) (group : TokenGroup)
      (listed : category ∈ [Category.color, .spacing, .fontFamily, .fontSize])
      (same : (config.group category).namedTokens = group.namedTokens) :
      HiddenChange config (config.withGroup category group)
  /-- Other names and slugs in a category of custom settings. -/
  | customs (config : Config) (category : Category) (group : TokenGroup)
      (listed : category ∈ [Category.fontWeight, .lineHeight, .radius, .shadow, .transition])
      (same : (config.group category).keyedValues = group.keyedValues) :
      HiddenChange config (config.withGroup category group)

/-- Other tokens in a category that has as little to show leave what every category
shows alone. -/
theorem withGroup_shows {Shown : Type} (shows : TokenGroup -> Shown) {config : Config}
    {changed : Category} {group : TokenGroup} {category : Category}
    (same : category = changed → shows (config.group changed) = shows group) :
    shows (config.group category) = shows ((config.withGroup changed group).group category) := by
  rw [Config.group_withGroup]
  split
  next equal => exact equal ▸ same equal
  · rfl

/-- The categories in another order have the same tokens. -/
theorem group_of_perm {config : Config} {tokens : Dictionary Category TokenGroup}
    (same : config.tokens.entries.Perm tokens.entries) (category : Category) :
    config.group category = Config.group { config with tokens } category := by
  rw [Config.group, Config.group, Dictionary.get?_of_perm same]

/-- A hidden change keeps the named tokens of the categories of presets. -/
theorem HiddenChange.namedTokens {first second : Config} (change : HiddenChange first second)
    {category : Category} (preset : category ∈ [Category.color, .spacing, .fontFamily, .fontSize]) :
    (first.group category).namedTokens = (second.group category).namedTokens := by
  cases change with
  | settings scope tokensPath outDir => rfl
  | order tokens same => rw [group_of_perm same]
  | stacking group =>
      refine withGroup_shows TokenGroup.namedTokens ?_
      rintro rfl
      simp at preset
  | presets changed group listed same =>
      exact withGroup_shows TokenGroup.namedTokens fun _ => same
  | customs changed group listed same =>
      refine withGroup_shows TokenGroup.namedTokens ?_
      rintro rfl
      cases category <;> simp at preset listed

/-- A hidden change keeps the values of the categories of custom settings. -/
theorem HiddenChange.keyedValues {first second : Config} (change : HiddenChange first second)
    {category : Category} (custom : category ∈ Category.customSettings) :
    (first.group category).keyedValues = (second.group category).keyedValues := by
  cases change with
  | settings scope tokensPath outDir => rfl
  | order tokens same => rw [group_of_perm same]
  | stacking group =>
      refine withGroup_shows TokenGroup.keyedValues ?_
      rintro rfl
      simp [Category.customSettings] at custom
  | presets changed group listed same =>
      refine withGroup_shows TokenGroup.keyedValues ?_
      rintro rfl
      cases category <;> simp [Category.customSettings] at custom listed
  | customs changed group listed same =>
      exact withGroup_shows TokenGroup.keyedValues fun _ => same

/-- The theme files of two configs are the same exactly when, in order, the slugs,
values and names of the named tokens are the same in each category of presets and
the keys and values of all tokens are the same in each category of custom settings.
In particular a hidden change shows nowhere in the theme file. -/
theorem content_eq_iff (first second : Config) :
    (content first = content second ↔
      (∀ category ∈ [Category.color, .spacing, .fontFamily, .fontSize],
        (first.group category).namedTokens = (second.group category).namedTokens) ∧
      ∀ category ∈ [Category.fontWeight, .lineHeight, .radius, .shadow, .transition],
        (first.group category).keyedValues = (second.group category).keyedValues) ∧
    (HiddenChange first second → content first = content second) := by
  constructor
  · rw [content_eq_iff_sections_eq, sections_eq_iff]
    rfl
  · intro change
    rw [content_eq_iff_sections_eq, sections_eq_iff]
    exact ⟨fun category => change.namedTokens, fun category => change.keyedValues⟩

end Theme

end DesignTokens
