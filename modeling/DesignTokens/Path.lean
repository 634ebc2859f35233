import DesignTokens.Text.Utf8

/-!
# Paths

A path is what a slash-separated text means: repeated slashes and parts that are a
single point count for nothing, two points lead up, and exactly two slashes at the
start are kept as they are. A location is where a path ends up: the names on the
way from the root directory, none of which leads up.
-/

namespace DesignTokens

/-- The names on the way from the root directory. -/
abbrev Location := List Text

/-- What a path starts from. -/
inductive Anchor where
  /-- The current directory. -/
  | relative
  /-- The root directory. -/
  | absolute
  /-- The root directory, spelled with two slashes. -/
  | doubled
  deriving DecidableEq, Repr

/-- A path: where it starts, and the parts on the way. -/
structure Path where
  anchor : Anchor
  parts : List Text
  deriving DecidableEq, Repr

namespace Path

/-- The part that leads up. -/
def up : Text := text ".."

/-- What a text that has this many slashes at its start starts from. -/
def anchorOf (slashes : Nat) : Anchor :=
  if slashes = 0 then .relative else if slashes = 2 then .doubled else .absolute

/-- The path that a text means. -/
def ofText (content : Text) : Path where
  anchor := anchorOf (content.takeWhile fun point => point == CodePoint.ofChar '/').length
  parts := (Text.splitAt '/' content).filter fun part => !part.isEmpty && part != text "."

/-- The slashes at the start of a path. -/
def anchorText : Anchor -> Text
  | .relative => []
  | .absolute => text "/"
  | .doubled => text "//"

/-- The shortest text that means a path. -/
def toText (path : Path) : Text :=
  if path.anchor = .relative ∧ path.parts = [] then text "."
  else anchorText path.anchor ++ List.intercalate (text "/") path.parts

/-- A path as seen from a base directory; one that does not start from the current
directory does not depend on the base. -/
def under (base path : Path) : Path :=
  if path.anchor = .relative then ⟨base.anchor, base.parts ++ path.parts⟩ else path

/-- The path of an entry of the directory that a path leads to. -/
def entry (path : Path) (name : Text) : Path :=
  ⟨path.anchor, path.parts ++ [name]⟩

/-- The path without its last part. -/
def parent (path : Path) : Path :=
  ⟨path.anchor, path.parts.dropLast⟩

/-- The last part of a path. -/
def name (path : Path) : Text :=
  path.parts.getLast?.getD []

/-- The location one part further on, when parts that lead up are taken at their
word. -/
def advance (location : Location) (part : Text) : Location :=
  if part = up then location.dropLast else location ++ [part]

/-- The location where a path starts. -/
def start (path : Path) (current : Location) : Location :=
  if path.anchor = .relative then current else []

/-- The location that the words of a path lead to, whatever is there. -/
def locationOf (path : Path) (current : Location) : Location :=
  path.parts.foldl advance (path.start current)

/-- The path from the root directory to a location. -/
def ofLocation (location : Location) : Path :=
  ⟨.absolute, location⟩

/-- A path that leads up as far as the parts before it allow, extended by a part. -/
def reduce (path : Path) (part : Text) : Path :=
  if part = up then
    match path.parts.getLast? with
    | none => if path.anchor = .relative then path.entry up else path
    | some last => if last = up then path.entry up else path.parent
  else path.entry part

/-- The paths that are looked at on the way to a location, which have the second
slash at the start of a path dropped. -/
def stages (path : Path) : List Path :=
  let origin : Path := ⟨if path.anchor = .relative then .relative else .absolute, []⟩
  (path.parts.foldl (fun seen part => seen.head?.elim (reduce origin part) (reduce · part) :: seen)
    []).reverse

end Path

/-- Why a text is not the name of anything, whatever the file system holds. -/
inductive NameFault where
  | unencodable (fault : Utf8.EncodeFault)
  | nul
  deriving DecidableEq, Repr

/-- The bytes by which the file system knows a text. -/
def nameBytes (content : Text) : Except NameFault Bytes :=
  match Utf8.encodeName content with
  | .error fault => .error (.unencodable fault)
  | .ok bytes => if bytes.contains 0 then .error .nul else .ok bytes

namespace Path

/-- The first fault of the names on the way to a location. -/
def nameFault? (path : Path) : Option NameFault :=
  path.stages.findSome? fun stage =>
    match nameBytes stage.toText with
    | .ok _ => none
    | .error fault => some fault

end Path

end DesignTokens
