import DesignTokens.Proofs.Config.Groups
import DesignTokens.Proofs.Stylesheet.Names
import DesignTokens.Proofs.Theme.Dependence
import Mathlib.Algebra.Order.BigOperators.Group.List

/-!
# What presets add to a stylesheet

Both stylesheets of a config declare the same properties in the same order. The values of named
tokens are longer where presets count, each by the reference that is put around it, and all
others are the same. So the stylesheets differ behind their banners exactly when there is a named
token in a category with presets.
-/

namespace DesignTokens

namespace Token

/-- How much longer the value of a token is where presets count. -/
def wrapping (category : Category) : Token -> Nat
  | unnamed _ => 0
  | named _ _ slug =>
      match category.presetPath? with
      | some path => 9 + path.length + slug.content.length
      | none => 0

/-- Where presets count, the value of a token is as much longer. -/
theorem length_presetValue (category : Category) (token : Token) :
    (token.presetValue category).length = token.value.length + token.wrapping category := by
  cases token with
  | unnamed value => rfl
  | named value name slug =>
      cases preset : category.presetPath? with
      | none => simp [presetValue, wrapping, preset, Token.value]
      | some path =>
          have marks : (text "var(").length = 4 ∧ (text "--").length = 2 ∧
              (text ", ").length = 2 ∧ (text ")").length = 1 := by decide
          obtain ⟨opening, dashes, comma, closing⟩ := marks
          simp only [presetValue, wrapping, preset, List.length_append, opening, dashes, comma,
            closing, Token.value]
          omega

/-- Where presets count, a value that is no longer is the same. -/
theorem presetValue_of_wrapping {category : Category} {token : Token}
    (nothing : token.wrapping category = 0) : token.presetValue category = token.value := by
  cases token with
  | unnamed value => rfl
  | named value name slug =>
      cases preset : category.presetPath? with
      | none => simp [presetValue, preset, Token.value]
      | some path =>
          simp only [wrapping, preset] at nothing
          omega

end Token

namespace Stylesheet

/-- What stands behind the first line of a text. -/
def behindFirstLine (content : Text) : Text :=
  (content.dropWhile fun point => point != CodePoint.ofChar '\n').drop 1

/-- The block of a stylesheet, without the comment above it. -/
def block (declarations : List Declaration) : Text :=
  unlines (text ":root \x7b" :: (declarations.map Declaration.line ++ [text "\x7d"]))

/-- The block stands behind the line of the comment. -/
theorem behindFirstLine_rootBlock {banner : Text} (oneLine : CodePoint.ofChar '\n' ∉ banner)
    (declarations : List Declaration) :
    behindFirstLine (rootBlock banner declarations) = block declarations := by
  have comment : ∀ point ∈ text "/* " ++ banner ++ text " */",
      (point != CodePoint.ofChar '\n') = true := by
    intro point member
    rw [bne_iff_ne]
    rintro rfl
    exact feed_not_mem_comment oneLine member
  have whole : rootBlock banner declarations =
      (text "/* " ++ banner ++ text " */") ++ (text "\n" ++ block declarations) := by
    simp [rootBlock, block, unlines]
  rw [whole, behindFirstLine, List.dropWhile_append_of_pos comment]
  rfl

/-- A block has the lines of its declarations and two others. -/
theorem length_block (declarations : List Declaration) :
    (block declarations).length =
      10 + (declarations.map fun declaration => declaration.line.length + 1).sum := by
  have marks : (text ":root \x7b").length = 7 ∧ (text "\x7d").length = 1 ∧
      (text "\n").length = 1 := by decide
  obtain ⟨opening, closing, feed⟩ := marks
  simp only [block, unlines, List.length_flatMap, List.length_append, List.map_cons,
    List.map_append, List.map_map, List.sum_cons, List.sum_append, List.map_nil, List.sum_nil,
    opening, closing, feed, Function.comp_def]
  omega

end Stylesheet

namespace Config

open Stylesheet

variable (config : Config)

/-- How much longer the tokens of a category are declared where presets count. -/
def wrapping (category : Category) (group : TokenGroup) : Nat :=
  (group.entries.map fun entry => entry.2.wrapping category).sum

/-- What is summed up over declarations is summed up over the tokens of one category after the
other. -/
theorem sum_declarations (write : Category -> Token -> Text) (measure : Declaration -> Nat) :
    ((config.declarations write).map measure).sum =
      (config.tokens.entries.map fun group => (group.2.entries.map fun entry =>
        measure ⟨propertyName config.scope.content group.1 entry.1,
          write group.1 entry.2⟩).sum).sum := by
  unfold declarations
  induction config.tokens.entries with
  | nil => rfl
  | cons group others ih =>
      simp only [List.flatMap_cons, List.map_append, List.map_map, List.sum_append, List.map_cons,
        List.sum_cons, Function.comp_def, ih]

/-- Where presets count, a block is longer by what its tokens are. -/
theorem length_block_preset :
    (block (config.declarations fun category token => token.presetValue category)).length =
      (block (config.declarations fun _ token => token.value)).length +
        (config.tokens.entries.map fun group => wrapping group.1 group.2).sum := by
  have line (name value : Text) :
      (Declaration.line ⟨name, value⟩).length + 1 = name.length + 6 + value.length := by
    have marks : (text "  ").length = 2 ∧ (text ": ").length = 2 ∧ (text ";").length = 1 := by
      decide
    obtain ⟨indent, colon, semicolon⟩ := marks
    simp only [Declaration.line, List.length_append, indent, colon, semicolon]
    omega
  simp only [length_block, sum_declarations, line, Token.length_presetValue, ← Nat.add_assoc,
    List.sum_map_add, wrapping]

/-- The declarations are the same if no token is longer where presets count. -/
theorem declarations_preset_of_wrapping
    (nothing : (config.tokens.entries.map fun group => wrapping group.1 group.2).sum = 0) :
    config.declarations (fun category token => token.presetValue category) =
      config.declarations fun _ token => token.value := by
  have groups := List.forall_mem_map.mp (List.sum_eq_zero_iff.mp nothing)
  refine List.flatMap_congr fun group listed => List.map_congr_left fun entry member => ?_
  have tokens := List.forall_mem_map.mp (List.sum_eq_zero_iff.mp (groups group listed))
  simp only [Token.presetValue_of_wrapping (tokens entry member)]

/-- The tokens of a category are longer by the named ones alone, if the category has presets. -/
theorem wrapping_eq (category : Category) (group : TokenGroup) :
    wrapping category group =
      match category.presetPath? with
      | some path => (group.namedTokens.map fun token => 9 + path.length + token.1.length).sum
      | none => 0 := by
  unfold wrapping TokenGroup.namedTokens
  cases preset : category.presetPath? with
  | none =>
      refine List.sum_eq_zero_iff.mpr (List.forall_mem_map.mpr fun entry _ => ?_)
      cases entry.2 <;> simp only [Token.wrapping, preset]
  | some path =>
      induction group.entries with
      | nil => rfl
      | cons entry others ih =>
          obtain ⟨key, token⟩ := entry
          cases token with
          | unnamed value =>
              rw [List.map_cons, List.sum_cons, ih]
              exact Nat.zero_add _
          | named value name slug =>
              rw [List.map_cons, List.sum_cons, ih]
              simp only [Token.wrapping, preset]
              rfl

/-- All tokens together are longer by the named tokens of the categories with presets. -/
theorem sum_wrapping :
    (config.tokens.entries.map fun group => wrapping group.1 group.2).sum =
      ([Category.color, .spacing, .fontFamily, .fontSize].map fun category =>
        ((config.group category).namedTokens.map fun token =>
          9 + (category.presetPath?.getD []).length + token.1.length).sum).sum := by
  rw [config.sum_groups fun _ => rfl]
  simp only [Category.all, wrapping_eq, Category.presetPath?, List.map_cons, List.map_nil,
    List.sum_cons, List.sum_nil, Option.getD_some, Nat.add_zero]

/-- No token is longer exactly when no token of a category with presets is named. -/
theorem sum_wrapping_eq_zero_iff :
    (config.tokens.entries.map fun group => wrapping group.1 group.2).sum = 0 ↔
      ∀ category ∈ [Category.color, .spacing, .fontFamily, .fontSize],
        (config.group category).namedTokens = [] := by
  have shares (path : Text) (tokens : List (Text × Text × Text)) :
      (tokens.map fun token => 9 + path.length + token.1.length).sum = 0 ↔ tokens = [] := by
    cases tokens <;> simp
  rw [sum_wrapping, List.sum_eq_zero_iff, List.forall_mem_map]
  exact forall₂_congr fun category _ => shares _ _

end Config

/-- Behind their banners, both stylesheets of a config declare the same names in the same order.
The one in which presets come first is longer by nine code points, the path of the category and
the slug for each named token in a category with presets. So both are the same there exactly when
there is no such token. What each declares is read back from it, if all of that can be. -/
theorem preset_wraps_plain (config : Config) :
    let declared := config.declarations fun _ token => token.value
    let wrapped := config.declarations fun category token => token.presetValue category
    let plain := Stylesheet.behindFirstLine (Stylesheet.plain config)
    let preset := Stylesheet.behindFirstLine (Stylesheet.preset config)
    plain = Stylesheet.block declared ∧ preset = Stylesheet.block wrapped ∧
      ((∀ declaration ∈ declared, declaration.Legible) →
        Stylesheet.declarations? (Stylesheet.plain config) = some declared) ∧
      ((∀ declaration ∈ wrapped, declaration.Legible) →
        Stylesheet.declarations? (Stylesheet.preset config) = some wrapped) ∧
      wrapped.map Declaration.name = declared.map Declaration.name ∧
      preset.length = plain.length +
        ([Category.color, .spacing, .fontFamily, .fontSize].map fun category =>
          ((config.group category).namedTokens.map fun token =>
            9 + (category.presetPath?.getD []).length + token.1.length).sum).sum ∧
      (plain = preset ↔ ∀ category ∈ [Category.color, .spacing, .fontFamily, .fontSize],
        (config.group category).namedTokens = []) := by
  intro declared wrapped plain preset
  have plainBlock : plain = Stylesheet.block declared :=
    Stylesheet.behindFirstLine_rootBlock (by decide) declared
  have presetBlock : preset = Stylesheet.block wrapped :=
    Stylesheet.behindFirstLine_rootBlock (by decide) wrapped
  have names : wrapped.map Declaration.name = declared.map Declaration.name := by
    simp only [wrapped, declared, Config.names_declarations]
  have lengths := config.length_block_preset
  rw [← plainBlock, ← presetBlock] at lengths
  refine ⟨plainBlock, presetBlock, Stylesheet.declarations?_rootBlock (by decide),
    Stylesheet.declarations?_rootBlock (by decide), names, config.sum_wrapping ▸ lengths, ?_⟩
  rw [← config.sum_wrapping_eq_zero_iff]
  constructor
  · intro same
    rw [same] at lengths
    omega
  · intro nothing
    rw [plainBlock, presetBlock]
    exact congrArg Stylesheet.block (config.declarations_preset_of_wrapping nothing).symm

end DesignTokens
