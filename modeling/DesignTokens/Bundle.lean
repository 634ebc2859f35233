import DesignTokens.FileTree.Scan
import DesignTokens.Session
import DesignTokens.Text.CaseFolding

/-!
# Bundling stylesheets

Every stylesheet below a source directory is copied into one directory and becomes
a section of one combined stylesheet. The tokens come first and the resets second,
so that custom properties are declared before anything uses them; the rest follows
by file name. The stylesheet that the build tool leaves behind is removed.
-/

namespace DesignTokens

namespace Stylesheet

/-- The name of the stylesheet that comes first. -/
def tokensName : Text := text "tokens.css"

/-- The name of the stylesheet that comes second. -/
def resetName : Text := text "reset.css"

/-- The rank of a stylesheet, and its name without regard to case among those that
have no place of their own. -/
def orderKey (path : Path) : Nat × Text :=
  if path.name = tokensName then (0, [])
  else if path.name = resetName then (1, [])
  else (2, path.name.foldCase)

/-- The order of keys: ranks first, then names by their code points. -/
def keyNoLater (first second : Nat × Text) : Bool :=
  first.1 < second.1 || (first.1 = second.1 && Text.noLater first.2 second.2)

/-- Stylesheets in the order of a bundle; those with equal keys keep their order. -/
def inOrder (paths : List Path) : List Path :=
  paths.mergeSort fun first second => keyNoLater (orderKey first) (orderKey second)

end Stylesheet

/-- What came of a run of the bundler. -/
structure Bundle where
  copied : List Path
  combined : Option Path
  removed : List Path
  deriving DecidableEq, Repr

namespace Bundle

/-- The name of the combined stylesheet. -/
def combinedName : Text := text "styles.css"

/-- The name of the directory of the copies. -/
def copiesName : Text := text "css"

/-- The name of the stylesheet that the build tool leaves behind. -/
def staleName : Text := text "index.css"

/-- A section of the combined stylesheet: a comment with the name, and the text. -/
def sectionText (name content : Text) : Text :=
  text "/* === " ++ name ++ text " === */\n" ++ content ++ text "\n"

/-- Copies a stylesheet and yields the target with its section. -/
def copySheet (setting : Setting) (copies sheet : Path) : Action (Path × Text) := do
  let target := copies.entry sheet.name
  let session <- get
  if session.tree.sameItem setting.current sheet target then
    throw (.sameFile sheet target)
  let content <- Action.look fun tree => tree.readFile setting.current sheet
  Action.change fun tree => tree.writeFile setting.current target content
  Action.record (.stylesheetCopied sheet target)
  let after <- Action.look fun tree => tree.readFile setting.current sheet
  let spelled <- Action.require (fileText after)
  return (target, sectionText sheet.name spelled)

/-- Writes the combined stylesheet. A name that has no encoding is noticed when the
file has been opened, and leaves it empty. -/
def writeCombined (setting : Setting) (target : Path) (sections : List Text) : Action Unit := do
  match Utf8.encode (List.intercalate (text "\n") sections) with
  | .ok content => Action.change fun tree => tree.writeFile setting.current target content
  | .error fault =>
      Action.change fun tree => tree.writeFile setting.current target []
      throw (.unencodable fault)

/-- Removes the stylesheet that the build tool left behind, unless it is a copy. -/
def removeStale (setting : Setting) (stale : Path) (copied : List Path) : Action (List Path) := do
  let found <- Action.look fun tree => tree.query setting.current stale
  if found.isSome && !copied.contains stale then
    Action.change fun tree => tree.removeFile setting.current stale
    Action.record (.staleStylesheetRemoved stale)
    return [stale]
  else return []

/-- Copies and combines the stylesheets below a source directory. -/
def run (setting : Setting) (source output : Path) : Action Bundle := do
  let sheets <- Action.look fun tree => tree.findStylesheets setting.current source
  if sheets.isEmpty then
    Action.record (.noStylesheets source)
    return ⟨[], none, []⟩
  else
    let copies := output.entry copiesName
    Action.extend fun tree => tree.createDirectories setting.current copies
    let copied <- (Stylesheet.inOrder sheets).mapM (copySheet setting copies)
    let combined := output.entry combinedName
    writeCombined setting combined (copied.map Prod.snd)
    Action.record (.stylesheetsBundled copied.length combined)
    let removed <- removeStale setting (copies.entry staleName) (copied.map Prod.fst)
    return ⟨copied.map Prod.fst, some combined, removed⟩

end Bundle

end DesignTokens
