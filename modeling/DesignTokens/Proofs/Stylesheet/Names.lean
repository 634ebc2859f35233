import DesignTokens.Proofs.Stylesheet.Block
import Mathlib.Data.List.Nodup

/-!
# The names of custom properties

The name of a custom property is put together from the scope, the segment of the category and
the key of the token, with a dash before each. Segments and keys may hold dashes themselves, but
no segment goes on, behind a dash, as another one. So a name tells the category and the key that
it was made of, and no two tokens of a config are declared under one name.
-/

namespace DesignTokens

namespace Category

/-- No two categories share a segment, and none has a segment that goes on, behind a dash, as
that of another. -/
theorem eq_of_segment_prefix {first second : Category}
    (begins : first.segment ++ text "-" <+: second.segment ++ text "-") : first = second := by
  have table : ∀ first ∈ all, ∀ second ∈ all,
      first.segment ++ text "-" <+: second.segment ++ text "-" → first = second := by decide
  exact table first first.mem_all second second.mem_all begins

end Category

/-- The name of a custom property tells the category and the key that it was made of. -/
theorem propertyName_eq_iff {scope : Text} {first second : Category} {key other : Text} :
    propertyName scope first key = propertyName scope second other ↔
      first = second ∧ key = other := by
  constructor
  · intro same
    have tails : first.segment ++ text "-" ++ key = second.segment ++ text "-" ++ other := by
      simpa [propertyName] using same
    have begins : first.segment ++ text "-" <+: second.segment ++ text "-" ++ other :=
      tails ▸ List.prefix_append _ key
    -- Both segments begin one text, so that one of them begins the other.
    have categories : first = second := by
      rcases List.prefix_or_prefix_of_prefix begins (List.prefix_append _ other) with
        shorter | longer
      · exact Category.eq_of_segment_prefix shorter
      · exact (Category.eq_of_segment_prefix longer).symm
    subst categories
    exact ⟨rfl, List.append_cancel_left tails⟩
  · rintro ⟨rfl, rfl⟩
    rfl

namespace Config

/-- The category and the key of each token, in the order of the config. -/
def tokenKeys (config : Config) : List (Category × Text) :=
  config.tokens.entries.flatMap fun group => group.2.keys.map fun key => (group.1, key)

/-- A category and a key belong to one token at most. -/
theorem nodup_tokenKeys (config : Config) : config.tokenKeys.Nodup := by
  refine List.nodup_flatMap.mpr ⟨fun group _ => ?_, ?_⟩
  · exact group.2.distinct.map fun _ _ same => (Prod.mk.inj same).2
  · refine (List.pairwise_map.mp config.tokens.distinct).imp fun other => ?_
    intro pair inFirst inSecond
    obtain ⟨_, -, rfl⟩ := List.mem_map.mp inFirst
    obtain ⟨_, -, same⟩ := List.mem_map.mp inSecond
    exact other (Prod.mk.inj same).1.symm

/-- There are as many tokens as categories with keys. -/
theorem length_tokenKeys (config : Config) : config.tokenKeys.length = config.tokenCount := by
  rw [tokenKeys, List.length_flatMap, List.sum_eq_foldl, List.foldl_map]
  simp [tokenCount, Dictionary.keys, Dictionary.size]

variable (config : Config) (write : Category -> Token -> Text)

/-- However values are written, the tokens are declared under their names, in order. -/
theorem names_declarations :
    (config.declarations write).map Declaration.name =
      config.tokenKeys.map fun pair => propertyName config.scope.content pair.1 pair.2 := by
  simp [declarations, tokenKeys, Dictionary.keys, List.map_flatMap, Function.comp_def]

/-- No two declarations have one name. -/
theorem nodup_names_declarations :
    ((config.declarations write).map Declaration.name).Nodup := by
  rw [names_declarations]
  refine config.nodup_tokenKeys.map fun first second same => ?_
  exact Prod.ext_iff.mpr (propertyName_eq_iff.mp same)

/-- There is one declaration for every token. -/
theorem length_declarations : (config.declarations write).length = config.tokenCount := by
  rw [← length_tokenKeys, ← List.length_map Declaration.name, names_declarations,
    List.length_map]

end Config

/-- Under any scope, two custom properties have one name only if they belong to one key of one
category. So both stylesheets of a config declare as many properties as it has tokens, no two of
them under one name; and these are the declarations that are read back from the stylesheet, if
all of them can be. -/
theorem propertyNames_distinct :
    (∀ scope first second key other,
      propertyName scope first key = propertyName scope second other ↔
        first = second ∧ key = other) ∧
      ∀ config : Config,
        let plain := config.declarations fun _ token => token.value
        let preset := config.declarations fun category token => token.presetValue category
        Stylesheet.plain config = rootBlock Stylesheet.plainBanner plain ∧
          (plain.map Declaration.name).Nodup ∧ plain.length = config.tokenCount ∧
          ((∀ declaration ∈ plain, declaration.Legible) →
            Stylesheet.declarations? (Stylesheet.plain config) = some plain) ∧
          Stylesheet.preset config = rootBlock Stylesheet.presetBanner preset ∧
          (preset.map Declaration.name).Nodup ∧ preset.length = config.tokenCount ∧
          ((∀ declaration ∈ preset, declaration.Legible) →
            Stylesheet.declarations? (Stylesheet.preset config) = some preset) := by
  refine ⟨fun _ _ _ _ _ => propertyName_eq_iff, fun config => ?_⟩
  refine ⟨rfl, config.nodup_names_declarations _, config.length_declarations _, ?_, rfl,
    config.nodup_names_declarations _, config.length_declarations _, ?_⟩
  · exact Stylesheet.declarations?_rootBlock (by decide)
  · exact Stylesheet.declarations?_rootBlock (by decide)

end DesignTokens
