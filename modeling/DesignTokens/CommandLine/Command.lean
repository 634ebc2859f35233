import DesignTokens.Artifact.Delivery
import DesignTokens.Bundle
import DesignTokens.CommandLine.Options

/-!
# Commands

The four commands: which options each takes, what it does, and what it prints when it
is done. Each stage of a command has families of failures that it turns into a message;
a failure of any other family ends the program.
-/

namespace DesignTokens

/-- The name under which the program speaks. -/
def programName : Text := text "story-to-block"

/-- The version of the program. -/
def programVersion : Text := text "0.1.0"

/-- The commands. -/
inductive Command where
  | generate
  | validate
  | bundle
  | help
  deriving DecidableEq, Repr

/-- What a command is asked to do. -/
structure Request where
  config : Option Path
  base : Option Path
  dryRun : Bool
  source : Path
  output : Path
  deriving DecidableEq, Repr

/-- What comes of a command that does not fail: lines to print, or a message that
says why there is nothing to do. -/
inductive Verdict where
  | done (lines : List Text)
  | refused (message : Text)
  deriving DecidableEq, Repr

namespace Command

/-- Every command. -/
def all : List Command := [generate, validate, bundle, help]

/-- The name of a command. -/
def name : Command -> Text
  | generate => text "generate"
  | validate => text "validate"
  | bundle => text "bundle-css"
  | help => text "help"

/-- The command with a name. -/
def ofName? (name : Text) : Option Command :=
  all.find? fun command => command.name == name

/-- The option that shows the help text. -/
def helpRule : OptionRule := ⟨.help, text "--help", none, false⟩

/-- The options in front of a command. -/
def commonRules : List OptionRule := [
  ⟨.verbose, text "--verbose", none, false⟩,
  ⟨.version, text "--version", some 'V', false⟩,
  helpRule]

/-- The option that names the config file. -/
def configRule : OptionRule := ⟨.config, text "--config", some 'c', true⟩

/-- The options of a command. -/
def rules : Command -> List OptionRule
  | generate => [configRule, ⟨.dryRun, text "--dry-run", some 'n', false⟩,
      ⟨.cwd, text "--cwd", none, true⟩, helpRule]
  | validate => [configRule, helpRule]
  | bundle => [⟨.source, text "--src", none, true⟩, ⟨.output, text "--dist", none, true⟩, helpRule]
  | help => [helpRule]

/-- The directory that is scanned for stylesheets unless another is named. -/
def defaultSource : Text := text "src"

/-- The directory of the build unless another is named. -/
def defaultOutput : Text := text "dist"

/-- The path that an option names. -/
def pathOf (arguments : Arguments) (name : OptionName) : Option Path :=
  (arguments.value? name).map Path.ofText

/-- What a command is asked to do by its arguments; the config file can also be
named from outside. -/
def request (arguments : Arguments) (configElsewhere : Option Text) : Request where
  config := (pathOf arguments .config).or (configElsewhere.map Path.ofText)
  base := pathOf arguments .cwd
  dryRun := arguments.has .dryRun
  source := (pathOf arguments .source).getD (Path.ofText defaultSource)
  output := (pathOf arguments .output).getD (Path.ofText defaultOutput)

/-- The lines that show an artifact. -/
def previewLines (entry : Artifact × Text) : List Text :=
  [text "=== " ++ entry.1.label ++ text " ===", entry.2]

/-- The line that tells of a file that was written. -/
def deliveredLine (file : DeliveredFile) : Text :=
  text "  " ++ file.path ++ text " (" ++ Text.decimal file.size ++ text " bytes)"

/-- What becomes of a failure: a message, if it is of a family that is told. -/
def settle (told : List Family) (failure : Failure) (session : Session) :
    EStateM.Result Failure Session Verdict :=
  if failure.families.any told.contains then .ok (.refused failure.message) session
  else .error failure session

/-- A stage of a command that tells the failures of some families, and what follows it. -/
def stage {Value : Type} (told : List Family) (action : Action Value)
    (next : Value -> Action Verdict) : Action Verdict :=
  fun session =>
    match action session with
    | .ok value after => next value after
    | .error failure after => settle told failure after

/-- The config that is asked for is loaded first; only complaints of the tool are told. -/
def withConfig (setting : Setting) (request : Request) (next : Config -> Action Verdict) :
    Action Verdict :=
  stage [.tool] (Config.load setting request.config) next

/-- Shows every artifact instead of writing it. -/
def preview (setting : Setting) (config : Config) : Action Verdict :=
  stage [.tool, .system] (Artifact.renderAll setting config) fun rendered =>
    return .done (rendered.flatMap previewLines)

/-- What a run prints when it has written files. -/
def deliveredLines (files : List DeliveredFile) : List Text :=
  (programName ++ text ": generated files:") :: files.map deliveredLine

/-- Writes every artifact. -/
def deliver (setting : Setting) (base : Option Path) (config : Config) : Action Verdict :=
  stage [.tool, .system] (Artifact.deliverAll setting base config) fun files =>
    return .done (deliveredLines files)

/-- Loads a config, and shows or writes every artifact of it. -/
def produce (setting : Setting) (request : Request) : Action Verdict :=
  withConfig setting request fun config =>
    if request.dryRun then preview setting config else deliver setting request.base config

/-- The lines that sum up a config. -/
def summaryLines (config : Config) : List Text :=
  [text "Config is valid (prefix: " ++ config.scope.content ++ text ")"] ++
    (config.tokens.entries.map fun group =>
      text "  " ++ group.1.name ++ text ": " ++ Text.decimal group.2.size) ++
    [text "  total: " ++ Text.decimal config.tokenCount]

/-- Checks a config. -/
def summarize (setting : Setting) (request : Request) : Action Verdict :=
  withConfig setting request fun config => return .done (summaryLines config)

/-- The lines that tell what came of a run of the bundler. -/
def bundleLines (bundle : Bundle) : List Text :=
  match bundle.combined with
  | none => [text "No CSS files found."]
  | some combined =>
      (bundle.copied.map fun path => text "  Copied: " ++ path.toText) ++
        [text "  Bundled: " ++ combined.toText] ++
        (bundle.removed.map fun path => text "  Removed: " ++ path.toText) ++
        [text "CSS build complete! " ++ Text.decimal bundle.copied.length ++
          text " files processed."]

/-- Bundles the stylesheets of a source directory, which has to be there. No failure of
the bundler is told. -/
def bundleSheets (setting : Setting) (request : Request) : Action Verdict := do
  let found <- Action.look fun tree => tree.isDirectory setting.current request.source
  if found then
    let bundle <- Bundle.run setting request.source request.output
    return .done (bundleLines bundle)
  else return .refused (text "source directory not found: " ++ request.source.toText)

/-- Does what a command is asked to do; the help text is shown elsewhere. -/
def perform (setting : Setting) (request : Request) : Command -> Action Verdict
  | generate => produce setting request
  | validate => summarize setting request
  | bundle => bundleSheets setting request
  | help => pure (.done [])

end Command

end DesignTokens
