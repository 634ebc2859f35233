import DesignTokens.Config

/-!
# Stylesheets of custom properties

Both stylesheets declare one custom property per token, in the order of the
config, inside one block on the root element. The plain one declares the values
of the tokens; the preset one lets the presets of WordPress come first.
-/

namespace DesignTokens

/-- A custom property with its value. -/
structure Declaration where
  name : Text
  value : Text
  deriving DecidableEq, Repr

/-- The line of a declaration in a block. -/
def Declaration.line (declaration : Declaration) : Text :=
  text "  " ++ declaration.name ++ text ": " ++ declaration.value ++ text ";"

namespace Config

/-- One declaration per token, with values as the given rule writes them. -/
def declarations (config : Config) (write : Category -> Token -> Text) : List Declaration :=
  config.tokens.entries.flatMap fun group =>
    group.2.entries.map fun entry =>
      ⟨propertyName config.scope.content group.1 entry.1, write group.1 entry.2⟩

end Config

/-- Lines, each with its line ending. -/
def unlines (lines : List Text) : Text :=
  lines.flatMap fun line => line ++ text "\n"

/-- A stylesheet with a comment above a block on the root element. -/
def rootBlock (banner : Text) (declarations : List Declaration) : Text :=
  unlines ([text "/* " ++ banner ++ text " */", text ":root \x7b"] ++
    declarations.map Declaration.line ++ [text "\x7d"])

namespace Stylesheet

/-- The comment above the plain stylesheet. -/
def plainBanner : Text :=
  text "Design tokens. Generated by story-to-block, do not edit."

/-- The comment above the preset stylesheet. -/
def presetBanner : Text :=
  text "Design tokens mapped to WordPress presets. Generated by story-to-block, do not edit."

/-- The stylesheet with the values of the tokens. -/
def plain (config : Config) : Text :=
  rootBlock plainBanner (config.declarations fun _ token => token.value)

/-- The stylesheet in which presets come first. -/
def preset (config : Config) : Text :=
  rootBlock presetBanner (config.declarations fun category token => token.presetValue category)

end Stylesheet

end DesignTokens
