import DesignTokens.Artifact
import DesignTokens.Config.Loading
import DesignTokens.Integration

/-!
# Delivering artifacts

All artifacts are rendered before the first is written. They are then written one
after the other, with whatever directories are missing on the way, and a failure
leaves those that were written in place.
-/

namespace DesignTokens

/-- A file that was written, by its path relative to the base directory. -/
structure DeliveredFile where
  path : Text
  size : Nat
  deriving DecidableEq, Repr

namespace Artifact

/-- The integration snippet: the one that comes with the tool, or the one in the
directory of the templates. -/
def snippet (setting : Setting) (tree : FileTree) : Except Failure Text :=
  match setting.templates with
  | none => .ok Integration.bundled
  | some directory =>
      let path := directory.entry Integration.templateName
      match tree.readFile setting.current path with
      | .ok content => fileText content
      | .error (.system _ _) => .error (.complaint (.templateNotFound path.toText))
      | .error (.name fault) => .error (.access (.name fault))

/-- Every artifact with its text. -/
def render (config : Config) (snippet : Text) : List (Artifact × Text) :=
  all.map fun artifact => (artifact, artifact.content config snippet)

/-- Renders every artifact. -/
def renderAll (setting : Setting) (config : Config) : Action (List (Artifact × Text)) := do
  Action.record (.plainRendering config.tokenCount)
  Action.record (.presetRendering config.tokenCount)
  Action.record (.themeRendering ((Theme.sections config).map Prod.fst))
  let session <- get
  let snippet <- Action.require (Artifact.snippet setting session.tree)
  return render config snippet

/-- The bytes of an artifact. -/
def encoded (content : Text) : Except Failure Bytes :=
  (Utf8.encode content).mapError .unencodable

/-- The directory below which artifacts are written, by default the current one, whose
location is taken to be known even if the directory is gone by then. -/
def baseDirectory (setting : Setting) (base : Option Path) : Path :=
  base.getD (Path.ofLocation setting.current)

/-- Writes one artifact. -/
def deliver (setting : Setting) (base : Path) (relative content : Text) :
    Action DeliveredFile := do
  let path := Path.under base (Path.ofText relative)
  Action.extend fun tree => tree.createDirectories setting.current path.parent
  let bytes <- Action.require (encoded content)
  Action.change fun tree => tree.writeFile setting.current path bytes
  Action.record (.fileWritten path bytes.length)
  return ⟨relative, bytes.length⟩

/-- Writes every artifact of a config. -/
def deliverAll (setting : Setting) (base : Option Path) (config : Config) :
    Action (List DeliveredFile) := do
  let rendered <- renderAll setting config
  rendered.mapM fun entry =>
    deliver setting (baseDirectory setting base) (entry.1.outputPath config) entry.2

/-- Loads a config and writes every artifact of it. -/
def generate (setting : Setting) (path base : Option Path) : Action (List DeliveredFile) := do
  let config <- Config.load setting path
  deliverAll setting base config

end Artifact

end DesignTokens
