import DesignTokens.Stylesheet
import DesignTokens.Theme

/-!
# Artifacts

The four files that a config amounts to, in the order in which they are written,
and where each goes relative to a base directory.
-/

namespace DesignTokens

/-- A generated file. -/
inductive Artifact where
  | plainStylesheet
  | presetStylesheet
  | theme
  | integration
  deriving DecidableEq, Repr

namespace Artifact

/-- Every artifact, in the order in which they are written. -/
def all : List Artifact := [plainStylesheet, presetStylesheet, theme, integration]

/-- The name of an artifact; apart from the plain stylesheet, whose path the
config tells, it is the name of the file too. -/
def label : Artifact -> Text
  | plainStylesheet => text "tokens.css"
  | presetStylesheet => text "tokens.wp.css"
  | theme => text "theme.json"
  | integration => text "integrate.php"

/-- Where an artifact goes. Slashes at the end of the output directory do not
count, so that an empty one stands for the root directory. -/
def outputPath (config : Config) : Artifact -> Text
  | plainStylesheet => config.tokensPath
  | artifact => config.outDir.dropTrailing '/' ++ text "/" ++ artifact.label

/-- The text of an artifact, given the integration snippet. -/
def content (config : Config) (snippet : Text) : Artifact -> Text
  | plainStylesheet => Stylesheet.plain config
  | presetStylesheet => Stylesheet.preset config
  | theme => Theme.content config
  | integration => snippet

end Artifact

end DesignTokens
