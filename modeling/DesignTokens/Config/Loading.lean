import DesignTokens.Json.Reader
import DesignTokens.Session

/-!
# Loading a config

A config is loaded from a file: the path is made absolute, the content is decoded
and read as JSON, and the document is checked. A file that cannot be read for any
reason of the file system counts as not found.
-/

namespace DesignTokens.Config

/-- The config that the content of a file spells; the path is there for complaints. -/
def ofContent (path : Path) (content : Bytes) : Except Failure Config := do
  let spelled <- fileText content
  match Json.read spelled with
  | .error (.malformed fault) =>
      .error (.complaint (.configNotJson path.toText (some fault.message)))
  | .error (.integerTooLong digits) => .error (.integerTooLong digits)
  | .ok document => (check document).mapError Failure.ofRejection

/-- The content of the file at an absolute path. -/
def readContent (tree : FileTree) (path : Path) : Except Failure Bytes :=
  match tree.readFile [] path with
  | .ok content => .ok content
  | .error (.system _ _) => .error (.complaint (.configNotFound path.toText))
  | .error (.name fault) => .error (.access (.name fault))

/-- The path of a file to load, by default that of the usual file. -/
def sought (path : Option Path) : Path :=
  path.getD (Path.ofText defaultFile)

/-- The file is sought from the current directory, and that directory is gone. -/
def Adrift (setting : Setting) (tree : FileTree) (path : Option Path) : Prop :=
  (sought path).anchor = .relative ∧ tree.find? setting.current ≠ some .directory

instance (setting : Setting) (tree : FileTree) (path : Option Path) :
    Decidable (Adrift setting tree path) :=
  inferInstanceAs (Decidable (_ ∧ _))

/-- The absolute path of a file to load, unless there is no directory to seek it from. That
failure is not taken for a file that cannot be found. -/
def resolve (setting : Setting) (tree : FileTree) (path : Option Path) : Except Failure Path :=
  match (sought path).nameFault? with
  | some fault => .error (.access (.name fault))
  | none =>
      if Adrift setting tree path then .error (.access (.system .notFound none))
      else .ok (Path.ofLocation ((sought path).locationOf setting.current))

/-- Loads the config at a path. -/
def load (setting : Setting) (path : Option Path) : Action Config := do
  let session <- get
  let resolved <- Action.require (resolve setting session.tree path)
  Action.record (.configLoading resolved)
  let content <- Action.require (readContent session.tree resolved)
  let config <- Action.require (ofContent resolved content)
  Action.record (.configValidated config.scope.content config.tokens.size config.tokenCount)
  return config

end DesignTokens.Config
