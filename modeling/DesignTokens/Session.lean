import DesignTokens.Failure

/-!
# Sessions

A session is what the operations of the tool act on: a file tree, and a log of what
was done. An action changes a session and yields a value or fails; the changes made
before a failure stay.
-/

namespace DesignTokens

/-- What is written to the log. -/
inductive Event where
  | configLoading (path : Path)
  | configValidated (scope : Text) (categories tokens : Nat)
  | plainRendering (tokens : Nat)
  | presetRendering (tokens : Nat)
  | themeRendering (sections : List Text)
  | fileWritten (path : Path) (size : Nat)
  | noStylesheets (source : Path)
  | stylesheetCopied (source target : Path)
  | stylesheetsBundled (count : Nat) (target : Path)
  | staleStylesheetRemoved (path : Path)
  deriving DecidableEq, Repr

/-- How much an event matters, in ascending order. -/
inductive Level where
  | debug
  | info
  | warning
  deriving DecidableEq, Repr

/-- The word for a level. -/
def Level.word : Level -> Text
  | .debug => text "DEBUG"
  | .info => text "INFO"
  | .warning => text "WARNING"

namespace Event

/-- How much an event matters. -/
def level : Event -> Level
  | configLoading _ => .debug
  | configValidated .. => .debug
  | plainRendering _ => .debug
  | presetRendering _ => .debug
  | themeRendering _ => .debug
  | fileWritten .. => .info
  | noStylesheets _ => .warning
  | stylesheetCopied .. => .debug
  | stylesheetsBundled .. => .info
  | staleStylesheetRemoved _ => .debug

/-- The part of the tool that an event comes from. -/
def origin : Event -> Text
  | configLoading _ => text "story_to_block.core.config"
  | configValidated .. => text "story_to_block.core.config"
  | plainRendering _ => text "story_to_block.generators.tokens_css"
  | presetRendering _ => text "story_to_block.generators.tokens_wp_css"
  | themeRendering _ => text "story_to_block.generators.theme_json"
  | fileWritten .. => text "story_to_block.runner"
  | noStylesheets _ => text "story_to_block.bundle"
  | stylesheetCopied .. => text "story_to_block.bundle"
  | stylesheetsBundled .. => text "story_to_block.bundle"
  | staleStylesheetRemoved _ => text "story_to_block.bundle"

/-- The wording of an event. -/
def message : Event -> Text
  | configLoading path => text "Loading config from " ++ path.toText
  | configValidated scope categories tokens =>
      text "Validated config: prefix=" ++ scope ++ text ", " ++ Text.decimal categories ++
        text " categories, " ++ Text.decimal tokens ++ text " tokens"
  | plainRendering tokens =>
      text "Generating tokens.css for " ++ Text.decimal tokens ++ text " tokens"
  | presetRendering tokens =>
      text "Generating tokens.wp.css for " ++ Text.decimal tokens ++ text " tokens"
  | themeRendering sections =>
      text "Generating theme.json with sections: " ++ List.intercalate (text ", ") sections
  | fileWritten path size =>
      text "Wrote " ++ path.toText ++ text " (" ++ Text.decimal size ++ text " bytes)"
  | noStylesheets source => text "No CSS files found in " ++ source.toText
  | stylesheetCopied source target =>
      text "Copied " ++ source.toText ++ text " -> " ++ target.toText
  | stylesheetsBundled count target =>
      text "Bundled " ++ Text.decimal count ++ text " stylesheets into " ++ target.toText
  | staleStylesheetRemoved path =>
      text "Removed build-tool stylesheet " ++ path.toText

/-- The line of an event in the log, without the time that it begins with. -/
def line (event : Event) : Text :=
  text "[" ++ event.level.word ++ text "] " ++ event.origin ++ text ": " ++ event.message ++
    text "\n"

end Event

/-- What actions find around them and do not change: the current directory, and
the directory of the templates if it is not the one that comes with the tool. A tree
need not hold the current directory, which may have been removed; whoever seeks a
config from it has to ask. -/
structure Setting where
  current : Location
  templates : Option Path

/-- What actions change. -/
structure Session where
  tree : FileTree
  log : List Event

/-- An operation of the tool. -/
abbrev Action := EStateM Failure Session

namespace Action

variable {Value : Type}

/-- Writes an event to the log. -/
def record (event : Event) : Action Unit :=
  fun session => .ok () { session with log := session.log ++ [event] }

/-- Goes on with a value or fails. -/
def require : Except Failure Value -> Action Value
  | .ok value => fun session => .ok value session
  | .error failure => fun session => .error failure session

/-- Looks at the tree. -/
def look (access : FileTree -> Except AccessFault Value) : Action Value :=
  fun session =>
    match access session.tree with
    | .ok value => .ok value session
    | .error fault => .error (.access fault) session

/-- Changes the tree, which stays as it is when the change is refused. -/
def change (access : FileTree -> Except AccessFault FileTree) : Action Unit :=
  fun session =>
    match access session.tree with
    | .ok tree => .ok () { session with tree := tree }
    | .error fault => .error (.access fault) session

/-- Changes the tree, where a refusal keeps what was done before it. -/
def extend (access : FileTree -> FileTree.ChangeResult) : Action Unit :=
  fun session =>
    match access session.tree with
    | .ok _ tree => .ok () { session with tree := tree }
    | .error fault tree => .error (.access fault) { session with tree := tree }

end Action

/-- The text of a file, with every line ending a line feed. -/
def fileText (content : Bytes) : Except Failure Text :=
  match Utf8.decode content with
  | .ok decoded => .ok decoded.unifyNewlines
  | .error fault => .error (.undecodable fault)

end DesignTokens
