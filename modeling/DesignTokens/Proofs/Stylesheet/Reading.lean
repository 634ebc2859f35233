import DesignTokens.Proofs.Stylesheet.Presets

/-!
# What a plain stylesheet tells

If no scope and no key holds a colon and nothing holds a line feed, the declarations of a config
are read back from its plain stylesheet. So it tells the category, the key and the value of each
token, and nothing else: names, slugs and categories without tokens never show.
-/

namespace DesignTokens

/-- There is no colon and no line feed in the segment of a category. -/
theorem Category.segment_legible (category : Category) :
    CodePoint.ofChar ':' ∉ category.segment ∧ CodePoint.ofChar '\n' ∉ category.segment := by
  cases category <;> decide

/-- The dictionary with other values under the same keys. -/
def Dictionary.mapValues {Key Value Next : Type} (dictionary : Dictionary Key Value)
    (change : Value -> Next) : Dictionary Key Next :=
  ⟨dictionary.entries.map fun entry => (entry.1, change entry.2), by
    simpa [Function.comp_def] using dictionary.distinct⟩

/-- The tokens of a category without their names and slugs. -/
def TokenGroup.bare (group : TokenGroup) : TokenGroup :=
  group.mapValues fun token => .unnamed token.value

namespace Config

/-- The category, the key and the value of each token, in the order of the config. -/
def keyedValues (config : Config) : List (Category × Text × Text) :=
  config.tokens.entries.flatMap fun group => group.2.keyedValues.map fun pair => (group.1, pair)

/-- The config without names and slugs, and without categories that have no tokens. -/
def bare (config : Config) : Config :=
  let groups := config.tokens.mapValues TokenGroup.bare
  { config with
    tokens := ⟨groups.entries.filter fun group => !group.2.entries.isEmpty,
      groups.distinct.sublist (List.filter_sublist.map Prod.fst)⟩ }

/-- A config whose plain stylesheet can be read back: there is no colon and no line feed in its
scope and in its keys, and no line feed in its values. -/
structure Legible (config : Config) : Prop where
  scope : CodePoint.ofChar ':' ∉ config.scope.content ∧
    CodePoint.ofChar '\n' ∉ config.scope.content
  keys : ∀ token ∈ config.keyedValues,
    CodePoint.ofChar ':' ∉ token.2.1 ∧ CodePoint.ofChar '\n' ∉ token.2.1
  values : ∀ token ∈ config.keyedValues, CodePoint.ofChar '\n' ∉ token.2.2

/-- The declaration of a value under a category and a key. -/
def declaration (scope : Text) (token : Category × Text × Text) : Declaration :=
  ⟨propertyName scope token.1 token.2.1, token.2.2⟩

variable {config : Config}

/-- The plain stylesheet declares the category, the key and the value of each token. -/
theorem declarations_plain (config : Config) :
    config.declarations (fun _ token => token.value) =
      config.keyedValues.map (declaration config.scope.content) := by
  simp [declarations, keyedValues, TokenGroup.keyedValues, declaration, List.map_flatMap,
    Function.comp_def]

/-- A declaration tells the category, the key and the value. -/
theorem declaration_injective (scope : Text) : Function.Injective (declaration scope) := by
  rintro ⟨first, key, value⟩ ⟨second, other, another⟩ same
  obtain ⟨names, values⟩ := Declaration.mk.inj same
  obtain ⟨categories, keys⟩ := propertyName_eq_iff.mp names
  exact Prod.ext categories (Prod.ext keys values)

/-- Names, slugs and categories without tokens do not show among the values. -/
theorem keyedValues_bare (config : Config) : config.bare.keyedValues = config.keyedValues := by
  unfold keyedValues bare Dictionary.mapValues
  dsimp only
  induction config.tokens.entries with
  | nil => rfl
  | cons group others ih =>
      rw [List.map_cons, List.flatMap_cons, ← ih]
      cases tokens : group.2.entries with
      | nil => simp [TokenGroup.bare, Dictionary.mapValues, TokenGroup.keyedValues, tokens]
      | cons entry rest =>
          simp [TokenGroup.bare, Dictionary.mapValues, TokenGroup.keyedValues, tokens, Token.value]

/-- What a legible config declares is legible. -/
theorem Legible.declarations (legible : config.Legible) :
    ∀ declaration ∈ config.declarations fun _ token => token.value, declaration.Legible := by
  rw [declarations_plain, List.forall_mem_map]
  rintro ⟨category, key, value⟩ member
  obtain ⟨keyColon, keyFeed⟩ := legible.keys _ member
  obtain ⟨segmentColon, segmentFeed⟩ := category.segment_legible
  have dashes : CodePoint.ofChar ':' ∉ text "--" ∧ CodePoint.ofChar ':' ∉ text "-" ∧
      CodePoint.ofChar '\n' ∉ text "--" ∧ CodePoint.ofChar '\n' ∉ text "-" := by decide
  constructor
  · simp [declaration, propertyName, dashes, legible.scope, segmentColon, keyColon]
  · simp [declaration, propertyName, dashes, legible.scope, segmentFeed, keyFeed]
  · exact legible.values _ member

end Config

namespace Stylesheet

/-- The declarations of a legible config are read back from its plain stylesheet. -/
theorem declarations?_plain {config : Config} (legible : config.Legible) :
    declarations? (plain config) =
      some (config.keyedValues.map (Config.declaration config.scope.content)) := by
  rw [plain, declarations?_rootBlock (by decide) legible.declarations, Config.declarations_plain]

/-- Plain stylesheets of one scope show the values under their categories and keys, and nothing
else. -/
theorem plain_of_keyedValues {first second : Config} (scope : first.scope = second.scope)
    (same : first.keyedValues = second.keyedValues) : plain first = plain second := by
  rw [plain, plain, Config.declarations_plain, Config.declarations_plain, scope, same]

/-- Legible configs of one scope have the same plain stylesheet exactly when they have the same
categories, keys and values in one order; names, slugs and categories without tokens never show.
Each line of the block, split at its first colon with a space, tells the name of the property and
the value of one token. -/
theorem plain_eq_iff_of_legible {first second : Config} (scope : first.scope = second.scope)
    (firstLegible : first.Legible) (secondLegible : second.Legible) :
    (plain first = plain second ↔ first.keyedValues = second.keyedValues) ∧
      plain first.bare = plain first ∧
      declarations? (plain first) =
        some (first.keyedValues.map fun token =>
          ⟨propertyName first.scope.content token.1 token.2.1, token.2.2⟩) ∧
      (blockLines (plain first)).length = first.tokenCount := by
  refine ⟨⟨fun same => ?_, plain_of_keyedValues scope⟩,
    plain_of_keyedValues rfl first.keyedValues_bare, declarations?_plain firstLegible, ?_⟩
  · have read := declarations?_plain firstLegible
    rw [same, declarations?_plain secondLegible, ← scope] at read
    have declared := Option.some.inj read
    exact (List.map_injective_iff.mpr (Config.declaration_injective _) declared).symm
  · rw [plain, blockLines_rootBlock (by decide) firstLegible.declarations, List.length_map,
      Config.length_declarations]

/-- A config with a value that looks like the end of a block with another declaration in it, and
with a category that has no tokens. -/
def deceptive : Config where
  scope := ⟨text "stb", by decide, by decide⟩
  tokensPath := Config.defaultTokensPath
  outDir := Config.defaultOutDir
  tokens := .ofList [
    (.fontSize, .ofList [(text "family-x",
      .named (text "1px; \x7d --stb-z-1: 2;") ⟨text "Size", by decide, by decide⟩
        ⟨text "size", by decide, by decide⟩)]),
    (.spacing, .empty)]

/-- Its value is read back whole, and without its name, its slug and the empty category its plain
stylesheet is the same. -/
theorem plain_deceptive :
    deceptive.Legible ∧ deceptive.bare.Legible ∧ plain deceptive = plain deceptive.bare ∧
      declarations? (plain deceptive) =
        some [⟨text "--stb-font-size-family-x", text "1px; \x7d --stb-z-1: 2;"⟩] := by
  have legible : deceptive.Legible := ⟨by decide, by decide, by decide⟩
  have bareLegible : deceptive.bare.Legible := ⟨by decide, by decide, by decide⟩
  have scope : deceptive.scope = deceptive.bare.scope := rfl
  obtain ⟨same, -, read, -⟩ := plain_eq_iff_of_legible scope legible bareLegible
  exact ⟨legible, bareLegible, same.mpr deceptive.keyedValues_bare.symm, read⟩

end Stylesheet

end DesignTokens
