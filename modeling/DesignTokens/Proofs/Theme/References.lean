import DesignTokens.Proofs.Config.Groups
import DesignTokens.Proofs.Theme.RoundTrip
import DesignTokens.Proofs.Stylesheet.Block

/-!
# Presets and the references to them

The preset stylesheet refers to a preset exactly where the theme file lists one:
category by category and in the same order, with the slug of the list and with
its value as the fallback. The two are rendered independently; each decides for
itself which categories have presets and what is left out.
-/

namespace DesignTokens

namespace Token

/-- The slug of a named token. -/
def slug? : Token -> Option Text
  | named _ _ slug => some slug.content
  | unnamed _ => none

/-- The value that refers to the preset of a slug and falls back to another value. -/
def reference (category : Category) (slug fallback : Text) : Text :=
  text "var(--wp--preset--" ++ category.segment ++ text "--" ++ slug ++ text ", " ++ fallback ++
    text ")"

end Token

namespace Config

/-- The declarations of one category in the preset stylesheet. -/
def presetDeclarations (config : Config) (category : Category) : List Declaration :=
  (config.group category).entries.map fun entry =>
    ⟨propertyName config.scope.content category entry.1, entry.2.presetValue category⟩

/-- The tokens of one category in order. -/
def tokensOf (config : Config) (category : Category) : List Token :=
  (config.group category).entries.map Prod.snd

/-- The presets of a category are those of its tokens. -/
theorem presets_eq (config : Config) (category : Category) :
    config.presets category = (config.tokensOf category).filterMap Preset.ofToken? := by
  rw [presets, tokensOf, List.filterMap_map]
  rfl

/-- The preset stylesheet declares the categories of the config one after the other. -/
theorem preset_eq (config : Config) :
    Stylesheet.preset config =
      rootBlock Stylesheet.presetBanner (config.tokens.keys.flatMap config.presetDeclarations) := by
  rw [Stylesheet.preset, declarations, Dictionary.keys, List.flatMap_map]
  congr 1
  refine List.flatMap_congr fun entry member => ?_
  rw [presetDeclarations, group_of_mem member]

end Config

namespace Theme

open Json

/-- The slug and the value of an entry that calls its value by a name. -/
def pair? (valueName : Text) (entry : Json) : Option (Text × Text) :=
  match entry.field? (text "slug"), entry.field? valueName with
  | some (.string slug), some (.string value) => some (slug, value)
  | _, _ => none

/-- The slugs and values that a theme document lists for a category. A list that is
left out counts as empty; what is no list of entries counts as nothing at all. -/
def pairs? (category : Category) (theme : Json) : Option (List (Text × Text)) :=
  match slot? category with
  | none => some []
  | some slot =>
      match (theme.field? (text "settings")).bind slot.find? with
      | none => some []
      | some (.array entries) => entries.mapM (pair? slot.valueName)
      | some _ => none

/-- The entry of a preset shows its slug and its value. -/
theorem pair?_document {valueName : Text} (other : ¬ text "slug" = valueName) (preset : Preset) :
    pair? valueName (preset.document valueName) = some (preset.slug, preset.value) := by
  simp [pair?, Preset.document, member?, other]

/-- The list of presets shows their slugs and values in order. -/
theorem mapM_pair? {valueName : Text} (other : ¬ text "slug" = valueName) (presets : List Preset) :
    (presets.map (Preset.document valueName)).mapM (pair? valueName) =
      some (presets.map fun preset => (preset.slug, preset.value)) := by
  induction presets with
  | nil => rfl
  | cons preset others ih =>
      rw [List.map_cons, List.mapM_cons, pair?_document other, ih]
      rfl

/-- In a slot a value never goes by the name of the slug. -/
theorem valueName_ne {category : Category} {slot : Slot} (slotted : slot? category = some slot) :
    ¬ text "slug" = slot.valueName := by
  cases category <;> cases slotted <;> decide

/-- A theme document lists the presets of a category with a slot. -/
theorem pairs?_document {category : Category} {slot : Slot}
    (slotted : slot? category = some slot) (config : Config) :
    pairs? category (document config) =
      some ((config.presets category).map fun preset => (preset.slug, preset.value)) := by
  have settings : (document config).field? (text "settings") =
      some (.object (sections config)) := rfl
  simp only [pairs?, slotted, settings, Option.bind_some, find?_slot slotted, optional]
  by_cases none : config.presets category = []
  · simp [none]
  · have entries := mapM_pair? (valueName_ne slotted) (config.presets category)
    simp [none, entries]

/-- The categories with slots are those whose presets have variables. -/
theorem presetPath?_of_slot {category : Category} {slot : Slot}
    (slotted : slot? category = some slot) :
    category.presetPath? = some (text "--wp--preset--" ++ category.segment) := by
  cases category <;> cases slotted <;> decide

/-- A category without a slot has no variables for presets. -/
theorem presetPath?_of_no_slot {category : Category} (slotless : slot? category = none) :
    category.presetPath? = none := by
  cases category <;> first | rfl | cases slotless

end Theme

namespace Token

open Theme

/-- The value that refers to a preset is longer than its fallback. -/
theorem reference_ne (category : Category) (slug fallback : Text) :
    reference category slug fallback ≠ fallback := by
  intro same
  have lengths := congrArg List.length same
  simp only [reference, List.length_append] at lengths
  have front : (text "var(--wp--preset--").length = 18 := rfl
  omega

/-- Where presets count, a named token refers to its preset. -/
theorem presetValue_named {category : Category} {slot : Slot}
    (slotted : slot? category = some slot) (value : Text) (name slug : Label) :
    presetValue category (.named value name slug) = reference category slug.content value := by
  simp [presetValue, presetPath?_of_slot slotted, reference]
  rfl

/-- In a category without presets every token keeps its value. -/
theorem presetValue_of_no_slot {category : Category} (slotless : slot? category = none)
    (token : Token) : token.presetValue category = token.value := by
  cases token <;> simp [presetValue, presetPath?_of_no_slot slotless, value]

/-- Where presets count, a named token is declared with another value than its own. -/
theorem presetValue_named_ne {category : Category} {slot : Slot}
    (slotted : slot? category = some slot) (value : Text) (name slug : Label) :
    presetValue category (.named value name slug) ≠ value := by
  rw [presetValue_named slotted]
  exact reference_ne category slug.content value

/-- A named token has the preset with its slug, its value and its name. -/
theorem ofToken?_named (value : Text) (name slug : Label) :
    Preset.ofToken? (.named value name slug) = some ⟨slug.content, value, name.content⟩ := rfl

/-- A token of a category with presets changes its value exactly when it has a preset
with its slug and its value. -/
theorem presetValue_ne_iff {category : Category} {slot : Slot}
    (slotted : slot? category = some slot) {tokens : List Token} {token : Token}
    (member : token ∈ tokens) :
    token.presetValue category ≠ token.value ↔
      ∃ preset ∈ tokens.filterMap Preset.ofToken?,
        token.slug? = some preset.slug ∧ token.value = preset.value := by
  cases token with
  | unnamed value => simp [presetValue, Token.value, slug?]
  | named value name slug =>
      have offered := List.mem_filterMap.mpr ⟨_, member, ofToken?_named value name slug⟩
      exact iff_of_true (presetValue_named_ne slotted value name slug) ⟨_, offered, rfl, rfl⟩

/-- Among the tokens of a category with presets exactly the named ones change their
value: each refers to its preset and falls back to its value. -/
theorem filter_presetValue {category : Category} {slot : Slot}
    (slotted : slot? category = some slot) (tokens : List Token) :
    (tokens.filter fun token => token.presetValue category ≠ token.value).map
        (fun token => (token.slug?, token.value, token.presetValue category)) =
      (tokens.filterMap Preset.ofToken?).map fun preset =>
        (some preset.slug, preset.value, reference category preset.slug preset.value) := by
  induction tokens with
  | nil => rfl
  | cons token others ih =>
      cases token with
      | unnamed value =>
          have same : (unnamed value).presetValue category = (unnamed value).value := rfl
          rw [List.filter_cons_of_neg (by simp [same]), ih, List.filterMap_cons_none rfl]
      | named value name slug =>
          have differs : (named value name slug).presetValue category ≠
              (named value name slug).value := presetValue_named_ne slotted value name slug
          rw [List.filter_cons_of_pos (by simpa using differs), List.map_cons, ih,
            List.filterMap_cons_some (ofToken?_named value name slug), List.map_cons,
            presetValue_named slotted]
          rfl

end Token

namespace Theme

/-- The settings hold no lists but those of presets. -/
theorem slot_of_array {config : Config} {place : Slot} {entries : List Json}
    (found : place.find? (.object (sections config)) = some (.array entries)) :
    ∃ category slot, slot? category = some slot ∧ slot.sectionName = place.sectionName ∧
      slot.listName = place.listName := by
  obtain ⟨part, inSettings, inPart⟩ := Option.bind_eq_some_iff.mp found
  rw [sections_eq_written] at inSettings
  obtain ⟨members, listed, rfl⟩ := mem_written (Json.mem_of_member? inSettings)
  have member : (place.listName, Json.array entries) ∈ members := Json.mem_of_member? inPart
  simp only [sectionRows, List.mem_cons, Prod.mk.injEq, List.not_mem_nil, or_false] at listed
  rcases listed with ⟨name, rfl⟩ | ⟨name, rfl⟩ | ⟨name, rfl⟩ | ⟨name, rfl⟩
  · exact ⟨.color, _, rfl, name.symm, (name_of_mem_listMember member).symm⟩
  · exact ⟨.spacing, _, rfl, name.symm, (name_of_mem_listMember member).symm⟩
  · rcases List.mem_append.mp member with families | sizes
    · exact ⟨.fontFamily, _, rfl, name.symm, (name_of_mem_listMember families).symm⟩
    · exact ⟨.fontSize, _, rfl, name.symm, (name_of_mem_listMember sizes).symm⟩
  · obtain ⟨_, _, impossible⟩ := mem_written member
    cases impossible

end Theme

/-- In every category the tokens whose declared value in the preset stylesheet is
not their own are, in order, those that the theme file lists, and each of them is
declared as the reference to the slug and value of its entry. No list of the theme
file is left over. The declarations are those that are read back from the preset stylesheet,
if all of them can be. -/
theorem references_match_presets (config : Config) (category : Category) :
    Stylesheet.preset config =
        rootBlock Stylesheet.presetBanner (config.tokens.keys.flatMap config.presetDeclarations) ∧
      ((∀ declaration ∈ config.tokens.keys.flatMap config.presetDeclarations,
        declaration.Legible) → Stylesheet.declarations? (Stylesheet.preset config) =
          some (config.tokens.keys.flatMap config.presetDeclarations)) ∧
      ∃ theme pairs, Json.read (Theme.content config) = .ok theme ∧
        Theme.pairs? category theme = some pairs ∧
        ((config.tokensOf category).filter fun token =>
            token.presetValue category ≠ token.value).map
            (fun token => (token.slug?, token.value, token.presetValue category)) =
          pairs.map (fun pair => (some pair.1, pair.2, Token.reference category pair.1 pair.2)) ∧
        (∀ token ∈ config.tokensOf category, token.presetValue category ≠ token.value ↔
          ∃ pair ∈ pairs, token.slug? = some pair.1 ∧ token.value = pair.2) ∧
        ∀ (place : Theme.Slot) (entries : List Json),
          (theme.field? (text "settings")).bind place.find? = some (.array entries) →
          ∃ other slot, Theme.slot? other = some slot ∧ slot.sectionName = place.sectionName ∧
            slot.listName = place.listName := by
  have read := Json.read_print (Theme.wellFormed_document config) Theme.isBlank_of_mem_newline
  refine ⟨config.preset_eq, fun legible => ?_, ?_⟩
  · rw [config.preset_eq]
    exact Stylesheet.declarations?_rootBlock (by decide) legible
  cases slotted : Theme.slot? category with
  | none =>
      have kept : ∀ token : Token, token.presetValue category = token.value :=
        Token.presetValue_of_no_slot slotted
      refine ⟨Theme.document config, [], read, by simp [Theme.pairs?, slotted], by simp [kept],
        by simp [kept], fun place entries => Theme.slot_of_array⟩
  | some slot =>
      refine ⟨Theme.document config, _, read, Theme.pairs?_document slotted config, ?_, ?_,
        fun place entries => Theme.slot_of_array⟩
      · rw [Token.filter_presetValue slotted, config.presets_eq, List.map_map]
        rfl
      · intro token member
        rw [Token.presetValue_ne_iff slotted member, config.presets_eq]
        simp

end DesignTokens
