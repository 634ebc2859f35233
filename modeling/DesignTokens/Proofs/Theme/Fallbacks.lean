import DesignTokens.Config.Validation
import DesignTokens.Proofs.Theme.References

/-!
# Fallbacks of references

A reference to a preset falls back to the value of its token, which is also the value of an entry
that the theme file lists under the slug of the reference. Nothing keeps two tokens of a category
from having one slug. So all entries under the slug have that value exactly when all tokens with
the slug do.
-/

namespace DesignTokens

namespace Config

variable {config : Config} {category : Category} {key : Text} {token : Token}

/-- Every token of a category is declared under its name, as the given rule writes its value. -/
theorem mem_declarations (member : (key, token) ∈ (config.group category).entries)
    (write : Category -> Token -> Text) :
    ⟨propertyName config.scope.content category key, write category token⟩ ∈
      config.declarations write :=
  List.mem_flatMap.mpr ⟨_, listed_of_mem_group member, List.mem_map.mpr ⟨_, member, rfl⟩⟩

/-- The presets of a category have the slugs and values of its tokens with slugs. -/
theorem mem_pairs_iff {slug value : Text} :
    (slug, value) ∈ (config.presets category).map (fun preset => (preset.slug, preset.value)) ↔
      ∃ token ∈ config.tokensOf category, token.slug? = some slug ∧ token.value = value := by
  rw [presets_eq, List.mem_map]
  constructor
  · rintro ⟨preset, offered, same⟩
    obtain ⟨token, member, isPreset⟩ := List.mem_filterMap.mp offered
    cases token with
    | unnamed value => cases isPreset
    | named own name label =>
        cases isPreset
        cases same
        exact ⟨_, member, rfl, rfl⟩
  · rintro ⟨token, member, slugged, rfl⟩
    cases token with
    | unnamed value => cases slugged
    | named own name label =>
        cases slugged
        exact ⟨_, List.mem_filterMap.mpr ⟨_, member, rfl⟩, rfl⟩

end Config

/-- A token without a slug is declared by its value where presets count. -/
theorem Token.presetValue_of_no_slug (category : Category) {token : Token}
    (slugless : token.slug? = none) : token.presetValue category = token.value := by
  cases token with
  | unnamed value => rfl
  | named value name slug => cases slugless

/-- A token with a slug is declared as a reference where presets count. -/
theorem Token.presetValue_of_slug {category : Category} {slot : Theme.Slot}
    (slotted : Theme.slot? category = some slot) {token : Token} {slug : Text}
    (slugged : token.slug? = some slug) :
    token.presetValue category = Token.reference category slug token.value := by
  cases token with
  | unnamed value => cases slugged
  | named value name label =>
      cases slugged
      exact presetValue_named slotted value name label

/-- In a category with presets, a token with a slug is declared as the reference to the preset of
that slug which falls back to the value of the token. That is its value in the plain stylesheet,
and the theme file lists it under the slug. All that the theme file lists under the slug has this
value exactly when all tokens of the category with the slug do. A token without a slug is declared
by its value in both stylesheets. -/
theorem references_agree_iff (config : Config) {category : Category} {slot : Theme.Slot}
    (slotted : Theme.slot? category = some slot) :
    ∃ theme pairs, Json.read (Theme.content config) = .ok theme ∧
      Theme.pairs? category theme = some pairs ∧
      ∀ key token, (key, token) ∈ (config.group category).entries →
        let name := propertyName config.scope.content category key
        let plain := config.declarations fun _ token => token.value
        let preset := config.declarations fun category token => token.presetValue category
        ⟨name, token.value⟩ ∈ plain ∧
        (token.slug? = none → ⟨name, token.value⟩ ∈ preset) ∧
        ∀ slug, token.slug? = some slug →
          ⟨name, Token.reference category slug token.value⟩ ∈ preset ∧
          (slug, token.value) ∈ pairs ∧
          ((∀ pair ∈ pairs, pair.1 = slug → pair.2 = token.value) ↔
            ∀ other ∈ config.tokensOf category, other.slug? = some slug →
              other.value = token.value) := by
  refine ⟨Theme.document config, _, Theme.read_content config,
    Theme.pairs?_document slotted config, fun key token member => ?_⟩
  intro name plain preset
  have declared : ⟨name, token.presetValue category⟩ ∈ preset := config.mem_declarations member _
  refine ⟨config.mem_declarations member _, fun slugless => ?_, fun slug slugged => ?_⟩
  · rwa [Token.presetValue_of_no_slug category slugless] at declared
  rw [Token.presetValue_of_slug slotted slugged] at declared
  have among : token ∈ config.tokensOf category := List.mem_map.mpr ⟨_, member, rfl⟩
  refine ⟨declared, config.mem_pairs_iff.mpr ⟨token, among, slugged, rfl⟩, ?_⟩
  constructor
  · intro agree other listed same
    exact agree (slug, other.value) (config.mem_pairs_iff.mpr ⟨other, listed, same, rfl⟩) rfl
  · rintro agree ⟨_, value⟩ offered rfl
    obtain ⟨other, listed, same, rfl⟩ := config.mem_pairs_iff.mp offered
    exact agree other listed same

/-- A document with colors. -/
def colorDocument (tokens : List (Text × Json)) : Json :=
  .object [(text "prefix", .string (text "x")),
    (text "tokens", .object [(text "color", .object tokens)])]

/-- The entry of a token with a slug. -/
def entryWith (value slug : Text) : Json :=
  .object [(text "value", .string value), (text "name", .string (text "N")),
    (text "slug", .string slug)]

/-- Colors with different slugs, and one that only spells a reference. -/
def distinctColors : Json :=
  colorDocument [(text "a", entryWith (text "#1") (text "s")),
    (text "b", entryWith (text "#2") (text "t")),
    (text "c", .object [(text "value", .string (text "var(--wp--preset--color--s, #3)"))])]

/-- All that is listed under the slug of one of them has its value. -/
theorem references_agree_distinctColors :
    Theme.slot? .color = some ⟨text "color", text "palette", text "color"⟩ ∧
      ∃ config theme pairs, Config.check distinctColors = .ok config ∧
        Json.read (Theme.content config) = .ok theme ∧ Theme.pairs? .color theme = some pairs ∧
        ∀ key token, (key, token) ∈ (config.group .color).entries →
          ∀ slug, token.slug? = some slug →
            (slug, token.value) ∈ pairs ∧
            ∀ pair ∈ pairs, pair.1 = slug → pair.2 = token.value := by
  obtain ⟨config, accepted, distinct⟩ : ∃ config, Config.check distinctColors = .ok config ∧
      ∀ token ∈ config.tokensOf .color, ∀ other ∈ config.tokensOf .color,
        token.slug?.isSome → other.slug? = token.slug? → other.value = token.value :=
    ⟨_, rfl, by decide +kernel⟩
  have slotted : Theme.slot? .color = some ⟨text "color", text "palette", text "color"⟩ := rfl
  obtain ⟨theme, pairs, read, listed, agree⟩ := references_agree_iff config slotted
  refine ⟨slotted, config, theme, pairs, accepted, read, listed, ?_⟩
  intro key token member slug slugged
  obtain ⟨-, -, refers⟩ := agree key token member
  obtain ⟨-, offered, exactly⟩ := refers slug slugged
  have among : token ∈ config.tokensOf .color := List.mem_map.mpr ⟨_, member, rfl⟩
  refine ⟨offered, exactly.mpr fun other present same => ?_⟩
  exact distinct token among other present (by simp [slugged]) (same.trans slugged.symm)

/-- A color of a document is declared as a reference although the theme file lists another value
under the slug. -/
def Disagrees (document : Json) : Prop :=
  ∃ config theme pairs, Config.check document = .ok config ∧
    Json.read (Theme.content config) = .ok theme ∧ Theme.pairs? .color theme = some pairs ∧
    ∃ token ∈ config.tokensOf .color, ∃ fallback, ∃ pair ∈ pairs,
      token.presetValue .color = Token.reference .color pair.1 fallback ∧ pair.2 ≠ fallback

/-- It is enough that a preset has another value than the fallback. -/
theorem disagrees_of_presets {document : Json} (fallback : Text)
    (conflict : ∃ config, Config.check document = .ok config ∧
      ∃ token ∈ config.tokensOf .color, ∃ preset ∈ config.presets .color,
        token.presetValue .color = Token.reference .color preset.slug fallback ∧
        preset.value ≠ fallback) : Disagrees document := by
  obtain ⟨config, accepted, token, member, preset, offered, refers, other⟩ := conflict
  have slotted : Theme.slot? .color = some ⟨text "color", text "palette", text "color"⟩ := rfl
  exact ⟨config, _, _, accepted, Theme.read_content config, Theme.pairs?_document slotted config,
    token, member, fallback, _, List.mem_map.mpr ⟨preset, offered, rfl⟩, refers, other⟩

/-- A preset may have another value than the fallback of a reference to it: where two colors have
one slug, where the value of a color without a slug spells a reference, and where a slug goes on
behind a comma as a fallback does. -/
theorem references_disagree :
    Disagrees (colorDocument [(text "a", entryWith (text "#1") (text "s")),
      (text "b", entryWith (text "#2") (text "s"))]) ∧
    Disagrees (colorDocument [(text "a", entryWith (text "#1") (text "s")),
      (text "b", .object [(text "value", .string (text "var(--wp--preset--color--s, #2)"))])]) ∧
    Disagrees (colorDocument [(text "a", entryWith (text "#1") (text "s")),
      (text "b", entryWith (text "#2") (text "s, t"))]) := by
  refine ⟨disagrees_of_presets (text "#2") ⟨_, rfl, by decide +kernel⟩,
    disagrees_of_presets (text "#2") ⟨_, rfl, by decide +kernel⟩,
    disagrees_of_presets (text "t, #2") ⟨_, rfl, by decide +kernel⟩⟩

end DesignTokens
