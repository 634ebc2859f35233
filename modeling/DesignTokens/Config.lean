import DesignTokens.Dictionary
import DesignTokens.Token

/-!
# Configs

A config is what everything else is rendered from: the scope of the custom
properties, where the files go, and the tokens by category. Categories and the
tokens of each keep the order of the document that they came from.
-/

namespace DesignTokens

/-- The tokens of one category by their keys. -/
abbrev TokenGroup := Dictionary Text Token

/-- A config that has passed every check. -/
structure Config where
  /-- The first part of the name of every custom property. -/
  scope : Label
  /-- Where the plain stylesheet goes, relative to the base directory. -/
  tokensPath : Text
  /-- The directory of the WordPress files, relative to the base directory. -/
  outDir : Text
  tokens : Dictionary Category TokenGroup
  deriving DecidableEq

namespace Config

/-- The file that is read when no other is named. -/
def defaultFile : Text := text "stb.config.json"

/-- Where the plain stylesheet goes unless the config tells. -/
def defaultTokensPath : Text := text "src/styles/tokens.css"

/-- Where the WordPress files go unless the config tells. -/
def defaultOutDir : Text := text "dist/wp"

/-- The tokens of one category, none if the config does not mention it. -/
def group (config : Config) (category : Category) : TokenGroup :=
  (config.tokens.get? category).getD .empty

/-- The number of tokens in all categories. -/
def tokenCount (config : Config) : Nat :=
  config.tokens.entries.foldl (fun total entry => total + entry.2.size) 0

end Config

end DesignTokens
