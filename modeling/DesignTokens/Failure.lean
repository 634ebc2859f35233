import DesignTokens.Config.Validation
import DesignTokens.FileTree.Access

/-!
# Failures

Everything that can go wrong. Complaints are what the tool itself has to say about
its input; each belongs to one or more families, and a caller can handle a family
as a whole. All other failures come from files, encodings and fields.
-/

namespace DesignTokens

/-- The families of failures that callers handle as a whole. -/
inductive Family where
  | tool
  | config
  | system
  deriving DecidableEq, Repr

/-- What the tool complains about. -/
inductive Complaint where
  | general (message : Text)
  | config (message : Text)
  | configNotFound (path : Text)
  | configNotJson (path : Text) (detail : Option Text)
  | configInvalid (message : Text) (kind : ViolationKind)
  | templateNotFound (path : Text)
  deriving DecidableEq, Repr

namespace Complaint

/-- The wording of a complaint. A detail without text counts as none. -/
def message : Complaint -> Text
  | general message => message
  | config message => message
  | configNotFound path => text "Config file not found: " ++ path
  | configNotJson path detail =>
      text "Invalid JSON in config file: " ++ path ++
        match detail with
        | none => []
        | some [] => []
        | some detail => text " (" ++ detail ++ text ")"
  | configInvalid message _ => text "Config error: " ++ message
  | templateNotFound path => text "Bundled template not found: " ++ path

/-- The families of a complaint. -/
def families : Complaint -> List Family
  | general _ => [.tool]
  | config _ => [.tool, .config]
  | configNotFound _ => [.tool, .config]
  | configNotJson _ _ => [.tool, .config]
  | configInvalid _ _ => [.tool, .config]
  | templateNotFound _ => [.tool, .system]

/-- The complaint about a violation. -/
def ofViolation (violation : Violation) : Complaint :=
  .configInvalid violation.message violation.kind

end Complaint

/-- Whatever can go wrong. -/
inductive Failure where
  | complaint (reason : Complaint)
  | access (fault : AccessFault)
  | sameFile (source target : Path)
  | unencodable (fault : Utf8.EncodeFault)
  | undecodable (fault : Utf8.DecodeFault)
  | integerTooLong (digits : Nat)
  | fields (faults : List FieldFault)
  | unknownCategory (name : Text)
  | unknownViolationKind (name : Text)
  /-- A command is not known, and no word is left to name it by. -/
  | noWordLeft
  deriving DecidableEq, Repr

namespace Failure

/-- How a path is shown where its quotation alone would not tell what it is. -/
def shownPath (path : Path) : Text :=
  text "PosixPath(" ++ path.toText.quoted ++ text ")"

/-- The wording of a failure. Faults of fields have none of their own: they are
told by their places and causes. -/
def message : Failure -> Text
  | complaint reason => reason.message
  | access fault => fault.message
  | sameFile source target =>
      shownPath source ++ text " and " ++ shownPath target ++ text " are the same file"
  | unencodable fault => fault.message
  | undecodable fault => fault.message
  | integerTooLong digits =>
      text "Exceeds the limit (4300 digits) for integer string conversion: value has " ++
        Text.decimal digits ++
        text " digits; use sys.set_int_max_str_digits() to increase the limit"
  | fields _ => []
  | unknownCategory name => name.quoted ++ text " is not a valid TokenCategory"
  | unknownViolationKind name => name.quoted ++ text " is not a valid ValidationKind"
  | noWordLeft => text "list index out of range"

/-- The families of a failure. -/
def families : Failure -> List Family
  | complaint reason => reason.families
  | access (.system _ _) => [.system]
  | sameFile _ _ => [.system]
  | _ => []

/-- The failure that a rejected document amounts to. -/
def ofRejection : Rejection -> Failure
  | .violation violation => .complaint (.ofViolation violation)
  | .fields faults => .fields faults

end Failure

/-- The category with a name. -/
def Category.ofName (name : Text) : Except Failure Category :=
  match Category.ofName? name with
  | some category => .ok category
  | none => .error (.unknownCategory name)

/-- The kind of violation with a name. -/
def ViolationKind.ofName (name : Text) : Except Failure ViolationKind :=
  match ViolationKind.ofName? name with
  | some kind => .ok kind
  | none => .error (.unknownViolationKind name)

end DesignTokens
