import DesignTokens.FileTree
import DesignTokens.Text.Quoted

/-!
# Access to a file tree

The operations by which files and directories are looked at and changed. Each takes
a path, which is followed part by part through directories that have to be there,
and each says why it is refused. A refused operation changes nothing, except that
the making of several directories keeps those made before the refusal.
-/

namespace DesignTokens

/-- Why an access is refused for what the file tree holds. -/
inductive AccessCause where
  | notFound
  | occupied
  | notDirectory
  | isDirectory
  | nameTooLong
  deriving DecidableEq, Repr

/-- The number by which systems know a cause. -/
def AccessCause.number : AccessCause -> Nat
  | .notFound => 2
  | .occupied => 17
  | .notDirectory => 20
  | .isDirectory => 21
  | .nameTooLong => 36

/-- The wording of a cause. -/
def AccessCause.wording : AccessCause -> Text
  | .notFound => text "No such file or directory"
  | .occupied => text "File exists"
  | .notDirectory => text "Not a directory"
  | .isDirectory => text "Is a directory"
  | .nameTooLong => text "File name too long"

/-- Why an access is refused: its path is no name of anything, or the file tree stands
against it, at a path if there is one. -/
inductive AccessFault where
  | name (fault : NameFault)
  | system (cause : AccessCause) (refused : Option Path)
  deriving DecidableEq, Repr

/-- The wording of a fault of a name. -/
def NameFault.message : NameFault -> Text
  | .unencodable fault => fault.message
  | .nul => text "embedded null byte"

/-- The wording of a refused access. -/
def AccessFault.message : AccessFault -> Text
  | .name fault => fault.message
  | .system cause refused =>
      text "[Errno " ++ Text.decimal cause.number ++ text "] " ++ cause.wording ++
        refused.elim [] fun path => text ": " ++ path.toText.quoted

namespace FileTree

/-- The most bytes that the name of a file or directory may have. -/
def nameLimit : Nat := 255

/-- A path has fewer bytes than this. -/
def pathLimit : Nat := 4096

/-- Whether a part of a path has too many bytes for a name. -/
def nameTooLong (part : Text) : Bool :=
  match Utf8.encodeName part with
  | .ok bytes => nameLimit < bytes.length
  | .error _ => false

/-- Whether a path has too many bytes. -/
def pathTooLong (path : Path) : Bool :=
  match nameBytes path.toText with
  | .ok bytes => pathLimit <= bytes.length
  | .error _ => false

/-- One part further from a location, at which a directory has to stand. -/
def enter (tree : FileTree) (location : Location) (part : Text) : Except AccessCause Location :=
  match tree.find? location with
  | some .directory =>
      if part = Path.up then .ok location.dropLast
      else if nameTooLong part then .error .nameTooLong
      else .ok (location ++ [part])
  | some (.file _) => .error .notDirectory
  | none => .error .notFound

/-- The location to which parts lead from a directory; all of them but the last
have to lead to directories. -/
def follow (tree : FileTree) (start : Location) (parts : List Text) :
    Except AccessCause Location :=
  if tree.find? start = some .directory then parts.foldlM tree.enter start
  else .error .notFound

/-- The location of a path. -/
def locate (tree : FileTree) (current : Location) (path : Path) : Except AccessFault Location :=
  match nameBytes path.toText with
  | .error fault => .error (.name fault)
  | .ok _ =>
      if pathTooLong path then .error (.system .nameTooLong path)
      else (tree.follow (path.start current) path.parts).mapError (.system · path)

/-- What stands at a path, nothing when the way there is no way. -/
def query (tree : FileTree) (current : Location) (path : Path) :
    Except AccessFault (Option Item) :=
  match tree.locate current path with
  | .ok location => .ok (tree.find? location)
  | .error (.system .nameTooLong refused) => .error (.system .nameTooLong refused)
  | .error _ => .ok none

/-- Whether a directory stands at a path. -/
def isDirectory (tree : FileTree) (current : Location) (path : Path) : Except AccessFault Bool :=
  (tree.query current path).map fun found => found = some .directory

/-- Whether two paths lead to the same thing. -/
def sameItem (tree : FileTree) (current : Location) (first second : Path) : Bool :=
  match tree.locate current first, tree.locate current second with
  | .ok left, .ok right => (tree.find? left).isSome && left = right
  | _, _ => false

/-- The content of the file at a path. -/
def readFile (tree : FileTree) (current : Location) (path : Path) : Except AccessFault Bytes := do
  let location <- tree.locate current path
  match tree.find? location with
  | some (.file content) => .ok content
  | some .directory => .error (.system .isDirectory path)
  | none => .error (.system .notFound path)

/-- Makes a directory, where nothing may stand. -/
def makeDirectory (tree : FileTree) (current : Location) (path : Path) :
    Except AccessFault FileTree := do
  let location <- tree.locate current path
  match tree.find? location with
  | some _ => .error (.system .occupied path)
  | none => .ok (tree.place location .directory)

/-- Writes a file anew, where no directory may stand. -/
def writeFile (tree : FileTree) (current : Location) (path : Path) (content : Bytes) :
    Except AccessFault FileTree := do
  let location <- tree.locate current path
  match tree.find? location with
  | some .directory => .error (.system .isDirectory path)
  | _ => .ok (tree.place location (.file content))

/-- Takes a file out. -/
def removeFile (tree : FileTree) (current : Location) (path : Path) :
    Except AccessFault FileTree := do
  let location <- tree.locate current path
  match tree.find? location with
  | some (.file _) => .ok (tree.prune location)
  | some .directory => .error (.system .isDirectory path)
  | none => .error (.system .notFound path)

/-- The outcome of a change that may be partly done when it is refused. -/
abbrev ChangeResult := EStateM.Result AccessFault FileTree Unit

/-- What comes of a directory that could not be made: nothing, if there is one. -/
def settle (tree : FileTree) (current : Location) (path : Path) : AccessFault -> ChangeResult
  | .name fault => .error (.name fault) tree
  | .system cause refused =>
      match tree.isDirectory current path with
      | .ok true => .ok () tree
      | .ok false => .error (.system cause refused) tree
      | .error fault => .error fault tree

/-- Makes a directory unless there is one. -/
def ensureDirectory (tree : FileTree) (current : Location) (path : Path) : ChangeResult :=
  match tree.makeDirectory current path with
  | .ok grown => .ok () grown
  | .error fault => tree.settle current path fault

/-- Makes a directory and whatever directories are missing on the way to it. -/
def createDirectories (tree : FileTree) (current : Location) (path : Path) : ChangeResult :=
  match tree.makeDirectory current path with
  | .ok grown => .ok () grown
  | .error (.system .notFound refused) =>
      if path.parts = [] then tree.settle current path (.system .notFound refused)
      else
        match tree.createDirectories current path.parent with
        | .ok _ grown => grown.ensureDirectory current path
        | .error fault grown => .error fault grown
  | .error fault => tree.settle current path fault
  termination_by path.parts.length
  decreasing_by
    simp only [Path.parent, List.length_dropLast]
    have positive := List.length_pos_iff.mpr ‹path.parts ≠ []›
    omega

end FileTree

end DesignTokens
