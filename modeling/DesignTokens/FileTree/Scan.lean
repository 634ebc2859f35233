import DesignTokens.FileTree.Access

/-!
# Scanning for stylesheets

A scan finds every stylesheet below a directory: the files whose names end in
`.css`. It looks at the entries of a directory with such names, be they files or
not, and then enters its subdirectories one after the other. It is refused at the
first visit whose path is too long.

Systems list the entries of a directory in an order of their own. Here it is taken to
be that of the names, so that a scan always takes the same course. Which stylesheets
are found does not depend on it; the order of those that sort alike does, and so does
the visit at which a scan is refused.
-/

namespace DesignTokens

/-- What the name of a stylesheet ends in. -/
def stylesheetEnding : Text := text ".css"

/-- Whether a name is that of a stylesheet. -/
def isStylesheetName (name : Text) : Bool :=
  stylesheetEnding.isSuffixOf name

/-- What a scan comes across on a way from where it starts: an entry that it looks
at, or a directory that it enters. -/
inductive Visit where
  | seen (way : Location) (item : Item)
  | entered (way : Location)
  deriving DecidableEq, Repr

namespace Visit

/-- The way to what is visited. -/
def way : Visit -> Location
  | seen way _ => way
  | entered way => way

/-- The way to what is visited, with a mark on each name that was entered. -/
def trail : Visit -> List (Bool × Text)
  | seen way _ => way.dropLast.map (true, ·) ++ way.getLast?.toList.map (false, ·)
  | entered way => way.map (true, ·)

/-- The order of trails. In a directory, the entries that are looked at come before
those that are entered, and names decide by their code points; a directory is entered
before anything in it is visited. -/
def trailNoLater : List (Bool × Text) -> List (Bool × Text) -> Bool
  | [], _ => true
  | _ :: _, [] => false
  | first :: rest, other :: others =>
      if first = other then trailNoLater rest others
      else if first.1 = other.1 then Text.noLater first.2 other.2
      else !first.1

/-- The order of visits. -/
def noLater (first second : Visit) : Bool :=
  trailNoLater first.trail second.trail

/-- The visits that an item on a way gives rise to. -/
def ofItem (way : Location) (item : Item) : List Visit :=
  (if isStylesheetName (way.getLast?.getD []) then [seen way item] else []) ++
    (if item = .directory then [entered way] else [])

/-- The way to the stylesheet that is visited, if it is one. -/
def stylesheet? : Visit -> Option Location
  | seen way (.file _) => some way
  | seen _ .directory => none
  | entered _ => none

end Visit

namespace FileTree

/-- The visits of a scan below a location, in their order, if entries are listed by their
names. -/
def visitsBelow (tree : FileTree) (location : Location) : List Visit :=
  (tree.items.entries.flatMap fun entry =>
    if location.isPrefixOf entry.1 && entry.1 != location then
      Visit.ofItem (entry.1.drop location.length) entry.2
    else []).mergeSort Visit.noLater

/-- The path that goes on from a directory along a way. -/
def onward (source : Path) (way : Location) : Path :=
  ⟨source.anchor, source.parts ++ way⟩

/-- The stylesheets below the directory at a path; none if there is no directory. -/
def findStylesheets (tree : FileTree) (current : Location) (source : Path) :
    Except AccessFault (List Path) :=
  match tree.locate current source with
  | .ok location =>
      if tree.find? location = some .directory then
        let visits := tree.visitsBelow location
        match visits.find? fun visit => pathTooLong (onward source visit.way) with
        | some visit => .error (.system .nameTooLong (onward source visit.way))
        | none => .ok ((visits.filterMap Visit.stylesheet?).map (onward source))
      else .ok []
  | .error (.system .nameTooLong refused) => .error (.system .nameTooLong refused)
  | .error _ => .ok []

end FileTree

end DesignTokens
