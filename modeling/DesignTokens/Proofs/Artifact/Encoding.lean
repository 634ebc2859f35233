import DesignTokens.Artifact.Delivery
import DesignTokens.Proofs.Config.Groups
import DesignTokens.Proofs.Json.Scalar
import DesignTokens.Proofs.Theme.Sections

/-!
# Which artifacts have an encoding

The plain stylesheet has an encoding exactly when no key and no value of a token holds a
surrogate; nothing else that goes into it can hold one. All other artifacts then have an
encoding too, as names and slugs are labels and the snippet is decoded text.
-/

namespace DesignTokens

namespace Category

variable (category : Category)

/-- The name of a category holds no surrogate. -/
@[simp]
theorem isScalar_name : category.name.isScalar = true := by
  cases category <;> exact Text.isScalar_text _

/-- The segment of a category holds no surrogate. -/
@[simp]
theorem isScalar_segment : category.segment.isScalar = true := by
  cases category <;> exact Text.isScalar_text _

/-- What the preset variables of a category begin with holds no surrogate. -/
theorem isScalar_presetPath {category : Category} {path : Text}
    (preset : category.presetPath? = some path) : path.isScalar = true := by
  cases category <;> cases preset <;> exact Text.isScalar_text _

end Category

namespace Config

variable {config : Config}

/-- No key and no value of a token holds a surrogate. -/
def ScalarTokens (config : Config) : Prop :=
  ∀ group ∈ config.tokens.entries, ∀ entry ∈ group.2.entries,
    entry.1.isScalar = true ∧ entry.2.value.isScalar = true

instance (config : Config) : Decidable config.ScalarTokens :=
  inferInstanceAs (Decidable (∀ _ ∈ _, ∀ _ ∈ _, _ ∧ _))

/-- The tokens of one category hold no surrogate if none of the config does. -/
theorem ScalarTokens.of_mem_group (scalar : config.ScalarTokens) {category : Category}
    {entry : Text × Token} (member : entry ∈ (config.group category).entries) :
    entry.1.isScalar = true ∧ entry.2.value.isScalar = true :=
  scalar _ (listed_of_mem_group member) entry member

end Config

namespace Stylesheet

/-- Lines hold no surrogate exactly when each of them holds none. -/
theorem isScalar_unlines (lines : List Text) :
    (unlines lines).isScalar = lines.all Text.isScalar := by
  simp [unlines, Text.isScalar_flatMap, Text.isScalar_append]

/-- A stylesheet holds no surrogate exactly when no declaration does. -/
theorem isScalar_rootBlock {banner : Text} (plain : banner.isScalar = true)
    (declarations : List Declaration) :
    (rootBlock banner declarations).isScalar =
      declarations.all fun declaration =>
        declaration.name.isScalar && declaration.value.isScalar := by
  simp [rootBlock, isScalar_unlines, Text.isScalar_append, plain, Declaration.line,
    Function.comp_def]

variable {config : Config}

/-- The name of a custom property holds no surrogate exactly when the key of the token does
not. -/
theorem isScalar_propertyName (scope : Label) (category : Category) (key : Text) :
    (propertyName scope.content category key).isScalar = key.isScalar := by
  simp [propertyName, Text.isScalar_append, scope.scalar]

/-- The plain stylesheet holds no surrogate exactly when no key and no value of a token does. -/
theorem isScalar_plain_iff : (plain config).isScalar = true ↔ config.ScalarTokens := by
  unfold plain plainBanner
  rw [isScalar_rootBlock (Text.isScalar_text _)]
  simp [Config.declarations, Config.ScalarTokens, isScalar_propertyName]

/-- The value of a token where presets count holds no surrogate if the value itself does not. -/
theorem isScalar_presetValue (category : Category) {token : Token}
    (scalar : token.value.isScalar = true) : (token.presetValue category).isScalar = true := by
  cases token with
  | unnamed value => exact scalar
  | named value name slug =>
      cases preset : category.presetPath? with
      | none =>
          simp only [Token.presetValue, preset]
          exact scalar
      | some path =>
          simp only [Token.presetValue, preset, Text.isScalar_append, Text.isScalar_text,
            Category.isScalar_presetPath preset, slug.scalar, Bool.and_true, Bool.true_and]
          exact scalar

/-- Neither does the preset stylesheet. -/
theorem isScalar_preset (scalar : config.ScalarTokens) : (preset config).isScalar = true := by
  unfold preset presetBanner
  rw [isScalar_rootBlock (Text.isScalar_text _), List.all_eq_true]
  intro declaration declared
  obtain ⟨group, listed, inside⟩ := List.mem_flatMap.mp declared
  obtain ⟨entry, member, rfl⟩ := List.mem_map.mp inside
  obtain ⟨key, value⟩ := scalar group listed entry member
  simp [isScalar_propertyName, key, isScalar_presetValue group.1 value]

end Stylesheet

namespace Theme

open Json

/-- Members whose names and documents hold no surrogate. -/
def ScalarMembers (members : List (Text × Json)) : Prop :=
  ∀ entry ∈ members, entry.1.isScalar = true ∧ entry.2.Scalar

namespace ScalarMembers

variable {members others : List (Text × Json)}

/-- An object of such members holds no surrogate. -/
theorem object (scalar : ScalarMembers members) : Scalar (.object members) :=
  .object (fun entry member => (scalar entry member).1) fun entry member => (scalar entry member).2

/-- Such members may be joined. -/
theorem append (scalar : ScalarMembers members) (rest : ScalarMembers others) :
    ScalarMembers (members ++ others) :=
  List.forall_mem_append.mpr ⟨scalar, rest⟩

/-- A member with an object of such members, or none if there are none. -/
theorem objectMember (scalar : ScalarMembers members) {name : Text}
    (named : name.isScalar = true) : ScalarMembers (objectMember name members) := by
  unfold Theme.objectMember
  split
  · exact List.forall_mem_nil _
  · exact List.forall_mem_singleton.mpr ⟨named, scalar.object⟩

end ScalarMembers

variable {config : Config}

/-- The presets of a config hold no surrogate if its tokens do not. -/
theorem scalarMembers_presetMember (scalar : config.ScalarTokens) (name valueName : String)
    (category : Category) :
    ScalarMembers (presetMember config (text name) (text valueName) category) := by
  unfold presetMember listMember
  split
  · exact List.forall_mem_nil _
  · refine List.forall_mem_singleton.mpr ⟨Text.isScalar_text name, .array fun item listed => ?_⟩
    obtain ⟨preset, among, rfl⟩ := List.mem_map.mp listed
    obtain ⟨⟨key, token⟩, member, made⟩ := List.mem_filterMap.mp among
    have value := (scalar.of_mem_group member).2
    cases token with
    | unnamed value => cases made
    | named content label slug =>
        cases made
        refine ScalarMembers.object ?_
        simp only [ScalarMembers, List.forall_mem_cons, Text.isScalar_text, true_and]
        exact ⟨.string slug.scalar, .string value, .string label.scalar, List.forall_mem_nil _⟩

/-- The custom settings of a config hold no surrogate if its tokens do not. -/
theorem scalarMembers_customValues (scalar : config.ScalarTokens) (category : Category) :
    ScalarMembers (config.customValues category) := by
  intro entry listed
  obtain ⟨token, member, rfl⟩ := List.mem_map.mp listed
  obtain ⟨key, value⟩ := scalar.of_mem_group member
  exact ⟨key, .string value⟩

/-- The sections of the settings hold no surrogate if the tokens do not. -/
theorem scalarMembers_sections (scalar : config.ScalarTokens) :
    ScalarMembers (sections config) := by
  have presets := scalarMembers_presetMember scalar
  have customs : ScalarMembers (Category.customSettings.flatMap fun category =>
      objectMember category.name (config.customValues category)) := by
    intro entry listed
    obtain ⟨category, -, member⟩ := List.mem_flatMap.mp listed
    exact (scalarMembers_customValues scalar category).objectMember category.isScalar_name
      entry member
  unfold sections
  refine (((presets _ _ _).objectMember (Text.isScalar_text _)).append ?_).append ?_ |>.append ?_
  · exact (presets _ _ _).objectMember (Text.isScalar_text _)
  · exact ((presets _ _ _).append (presets _ _ _)).objectMember (Text.isScalar_text _)
  · exact customs.objectMember (Text.isScalar_text _)

/-- The theme file holds no surrogate if the tokens do not. -/
theorem isScalar_content (scalar : config.ScalarTokens) : (content config).isScalar = true := by
  have whole : (document config).Scalar := by
    refine ScalarMembers.object ?_
    simp only [ScalarMembers, List.forall_mem_cons, Text.isScalar_text, true_and]
    exact ⟨.string (Text.isScalar_text _), .number _, (scalarMembers_sections scalar).object,
      List.forall_mem_nil _⟩
  rw [content, Text.isScalar_append, print, whole.isScalar_printAt, Text.isScalar_text]
  rfl

end Theme

namespace Artifact

/-- The integration snippet holds no surrogate, wherever it is taken from. -/
theorem isScalar_snippet {setting : Setting} {tree : FileTree} {snippet : Text}
    (taken : Artifact.snippet setting tree = .ok snippet) : snippet.isScalar = true := by
  unfold Artifact.snippet at taken
  split at taken
  · cases taken
    simp [Integration.bundled, Text.isScalar_flatMap, Text.isScalar_append]
  · dsimp only at taken
    split at taken
    next content read =>
      unfold fileText at taken
      split at taken
      next decoded decodes =>
        cases taken
        exact Text.isScalar_unifyNewlines (Utf8.isScalar_of_decode decodes)
      next => cases taken
    next => cases taken
    next => cases taken

/-- Every artifact holds no surrogate if the tokens do not. -/
theorem isScalar_content {config : Config} {snippet : Text} (scalar : config.ScalarTokens)
    (plain : snippet.isScalar = true) (artifact : Artifact) :
    (artifact.content config snippet).isScalar = true := by
  cases artifact with
  | plainStylesheet => exact Stylesheet.isScalar_plain_iff.mpr scalar
  | presetStylesheet => exact Stylesheet.isScalar_preset scalar
  | theme => exact Theme.isScalar_content scalar
  | integration => exact plain

end Artifact

end DesignTokens
