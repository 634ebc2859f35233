import DesignTokens.Config.Loading
import DesignTokens.Proofs.CommandLine.Complaint
import DesignTokens.Proofs.Config.Acceptance
import DesignTokens.Proofs.FileTree.Growth
import DesignTokens.Proofs.Json.Refusal
import DesignTokens.Proofs.Json.Yield
import DesignTokens.Proofs.Outcomes

/-!
# How loading a config ends

Loading depends on the tree alone and leaves it alone. When there is a file to load,
there are two failures that it is meant to end in: the file is not JSON, or the
document breaks a rule. Three kinds of content bring about others: bytes that are no
UTF-8, an integer with more digits than are converted, and a lone surrogate in a text
that has to be a label.
-/

namespace DesignTokens

namespace Config

/-- The config that a path leads to in a tree, or why there is none. -/
def loaded (setting : Setting) (tree : FileTree) (path : Option Path) : Except Failure Config := do
  let resolved <- resolve setting tree path
  let content <- readContent tree resolved
  ofContent resolved content

/-- What is loaded of a file that can be read is what its content spells. -/
theorem loaded_of_read {setting : Setting} {tree : FileTree} {path : Option Path}
    {resolved : Path} {content : Bytes} (found : resolve setting tree path = .ok resolved)
    (read : readContent tree resolved = .ok content) :
    loaded setting tree path = ofContent resolved content := by
  rw [loaded, found, ok_bind, read, ok_bind]

/-- Loading ends as the tree tells and leaves it as it is. -/
theorem load_ends (setting : Setting) (path : Option Path) (session : Session) :
    (load setting path).Ends session
      (fun config after => after.tree = session.tree ∧
        loaded setting session.tree path = .ok config)
      fun failure after => after.tree = session.tree ∧
        loaded setting session.tree path = .error failure := by
  unfold load
  refine Action.ends_bind.mpr (Action.ends_get ?_)
  refine Action.ends_bind.mpr (Action.ends_require (fun resolved found => ?_) fun _ failed => ?_)
  · refine Action.ends_bind.mpr (Action.ends_record ?_)
    refine Action.ends_bind.mpr (Action.ends_require (fun content read => ?_) fun _ failed => ?_)
    · refine Action.ends_bind.mpr (Action.ends_require (fun config made => ?_) fun _ failed => ?_)
      · refine Action.ends_bind.mpr (Action.ends_record (Action.ends_pure ⟨rfl, ?_⟩))
        exact (loaded_of_read found read).trans made
      · exact ⟨rfl, (loaded_of_read found read).trans failed⟩
    · refine ⟨rfl, ?_⟩
      rw [loaded, found, ok_bind, failed]
      rfl
  · refine ⟨rfl, ?_⟩
    rw [loaded, failed]
    rfl

/-- The failures that loading a file is meant to end in: the file is not JSON, or the
document breaks a rule. -/
inductive Declared (path : Path) : Failure -> Prop
  | notJson (fault : JsonFault) :
      Declared path (.complaint (.configNotJson path.toText (some fault.message)))
  | invalid (violation : Violation) : Declared path (.complaint (.ofViolation violation))

/-- The other failures that the content of a file brings about, with what is to blame:
the bytes, an integer that the reader meets in the text, or a lone surrogate in a label of the
document. -/
inductive Undeclared (content : Bytes) : Failure -> Prop
  | undecodable {fault : Utf8.DecodeFault} (refused : Utf8.decode content = .error fault) :
      Undeclared content (.undecodable fault)
  | integerTooLong {spelled : Text} {digits : Nat} (decoded : fileText content = .ok spelled)
      (met : Json.read spelled = .error (.integerTooLong digits))
      (long : JsonReader.digitLimit < digits) (row : spelled.HasDigits digits) :
      Undeclared content (.integerTooLong digits)
  | labels {spelled : Text} {document : Json} {faults : List FieldFault}
      (decoded : fileText content = .ok spelled) (read : Json.read spelled = .ok document)
      (checked : check document = .error (.fields faults))
      (surrogates : ¬ ScalarLabels document) : Undeclared content (.fields faults)

/-- Checking a document whose labels hold no lone surrogate ends in a violation or not at all. -/
theorem check_of_scalarLabels {document : Json} {rejection : Rejection}
    (wellFormed : document.WellFormed fun _ => True) (scalar : ScalarLabels document)
    (rejected : check document = .error rejection) :
    ∃ violation, rejection = .violation violation := by
  have follows := follows_check wellFormed scalar
  unfold Follows at follows
  cases first : firstFailure (checks document) with
  | none =>
      simp only [first] at follows
      obtain ⟨config, accepted, -⟩ := follows
      cases rejected.symm.trans accepted
  | some failed =>
      simp only [first] at follows
      exact ⟨failed.violation, Except.error.inj (rejected.symm.trans follows)⟩

/-- Content that spells no config fails in a declared way, or is to blame for another. -/
theorem ofContent_error {path : Path} {content : Bytes} {failure : Failure}
    (failed : ofContent path content = .error failure) :
    Declared path failure ∨ Undeclared content failure := by
  unfold ofContent at failed
  cases decoded : fileText content with
  | error refusal =>
      rw [decoded] at failed
      obtain rfl : refusal = failure := Except.error.inj failed
      unfold fileText at decoded
      cases refused : Utf8.decode content with
      | ok spelled =>
          rw [refused] at decoded
          cases decoded
      | error fault =>
          rw [refused] at decoded
          cases decoded
          exact .inr (.undecodable refused)
  | ok spelled =>
      rw [decoded, ok_bind] at failed
      cases read : Json.read spelled with
      | ok document =>
          simp only [read] at failed
          cases checked : check document with
          | ok config =>
              rw [checked] at failed
              cases failed
          | error rejection =>
              rw [checked] at failed
              cases failed
              by_cases scalar : ScalarLabels document
              · obtain ⟨violation, rfl⟩ :=
                  check_of_scalarLabels (Json.wellFormed_of_read read) scalar checked
                exact .inl (.invalid violation)
              · cases rejection with
                | violation violation => exact .inl (.invalid violation)
                | fields faults => exact .inr (.labels decoded read checked scalar)
      | error refusal =>
          simp only [read] at failed
          cases refusal with
          | malformed fault =>
              cases failed
              exact .inl (.notJson fault)
          | integerTooLong digits =>
              cases failed
              obtain ⟨long, row⟩ := Json.hasDigits_of_read read
              exact .inr (.integerTooLong decoded read long row)

/-- How a path fails to be made absolute: it names nothing, or it is to be sought from a
directory that is gone. -/
theorem resolve_error {setting : Setting} {tree : FileTree} {path : Option Path}
    {failure : Failure} (failed : resolve setting tree path = .error failure) :
    (∃ fault, failure = .access (.name fault)) ∨
      Adrift setting tree path ∧ failure = .access (.system .notFound none) := by
  unfold resolve at failed
  split at failed
  · cases failed
    exact .inl ⟨_, rfl⟩
  · split at failed
    next adrift =>
      cases failed
      exact .inr ⟨adrift, rfl⟩
    next => cases failed

/-- A path that can be named is not made absolute without the directory it is sought from. -/
theorem resolve_of_adrift {setting : Setting} {tree : FileTree} {path : Option Path}
    (named : (sought path).nameFault? = none) (adrift : Adrift setting tree path) :
    resolve setting tree path = .error (.access (.system .notFound none)) := by
  rw [resolve, named]
  exact if_pos adrift

/-- How a path fails to be loaded: it names nothing, it is to be sought from a directory that
is gone, there is no file, or the content of the file spells no config. -/
theorem loaded_error_cases {setting : Setting} {tree : FileTree} {path : Option Path}
    {failure : Failure} (failed : loaded setting tree path = .error failure) :
    (∃ fault, failure = .access (.name fault)) ∨
      Adrift setting tree path ∧ failure = .access (.system .notFound none) ∨
      (∃ missing, failure = .complaint (.configNotFound missing)) ∨
      ∃ resolved content, Declared resolved failure ∨ Undeclared content failure := by
  unfold loaded at failed
  cases found : resolve setting tree path with
  | error refusal =>
      rw [found] at failed
      cases failed
      exact (resolve_error found).imp_right .inl
  | ok resolved =>
      rw [found, ok_bind] at failed
      cases read : readContent tree resolved with
      | error refusal =>
          rw [read] at failed
          cases failed
          unfold readContent at read
          split at read
          · cases read
          · cases read
            exact .inr (.inr (.inl ⟨_, rfl⟩))
          · cases read
            exact .inl ⟨_, rfl⟩
      | ok content =>
          rw [read, ok_bind] at failed
          exact .inr (.inr (.inr ⟨resolved, content, ofContent_error failed⟩))

/-- The commands that load a config. -/
def loadingCommands : List Command := [.generate, .validate]

/-- A command whose config cannot be loaded ends with that failure, which it tells if it is a
complaint of the tool. -/
theorem perform_of_failed {setting : Setting} {request : Request} {session after : Session}
    {failure : Failure} (failed : load setting request.config session = .error failure after)
    {command : Command} (loads : command ∈ loadingCommands) :
    command.perform setting request session = Command.settle [.tool] failure after := by
  have stops (next : Config -> Action Verdict) :
      Command.withConfig setting request next session = Command.settle [.tool] failure after := by
    simp only [Command.withConfig, Command.stage, failed]
  simp only [loadingCommands, List.mem_cons, List.not_mem_nil, or_false] at loads
  rcases loads with rfl | rfl
  · exact stops _
  · exact stops _

/-- A failure that keeps a path from being loaded is what the loading ends in. -/
theorem load_of_loaded_error (session : Session) {setting : Setting} {path : Option Path}
    {failure : Failure} (failed : loaded setting session.tree path = .error failure) :
    ∃ after, load setting path session = .error failure after ∧ after.tree = session.tree := by
  have ends := load_ends setting path session
  cases outcome : load setting path session with
  | ok config after => cases failed.symm.trans (ends.of_returned outcome).2
  | error other after =>
      obtain ⟨same, cause⟩ := ends.of_failed outcome
      obtain rfl : failure = other := Except.error.inj (failed.symm.trans cause)
      exact ⟨after, rfl, same⟩

/-- A run that loads a config shows the message of a failure on one line, behind its log,
and exits with code 1; the line is one unless the message itself has more. -/
def Reported (errors : ErrorOutput) (setting : Setting) (request : Request) (session : Session)
    (failure : Failure) (log : List Event) : Prop :=
  ∀ command ∈ loadingCommands, ∀ verbose, ∃ line,
    CommandLine.complaintLine failure.message = line ++ text "\n" ∧
    CommandLine.transcriptOf errors verbose (command.perform setting request session) =
      ⟨[], CommandLine.logText errors verbose log ++ (line ++ text "\n"), .exit 1,
        session.tree⟩ ∧
    (CodePoint.ofChar '\n' ∉ failure.message → CodePoint.ofChar '\n' ∉ line)

/-- A declared failure is reported, if the error output takes its message. -/
theorem Declared.reported {errors : ErrorOutput} {setting : Setting} {request : Request}
    {session after : Session} {resolved : Path} {failure : Failure}
    (declared : Declared resolved failure)
    (failed : load setting request.config session = .error failure after)
    (same : after.tree = session.tree) (takes : errors.Takes failure.message) :
    Reported errors setting request session failure after.log := by
  intro command loads verbose
  have told : Command.settle [.tool] failure after = .ok (.refused failure.message) after := by
    cases declared <;> rfl
  obtain ⟨line, shown, unbroken⟩ := CommandLine.exists_complaintLine failure.message
  refine ⟨line, shown, ?_, unbroken⟩
  rw [perform_of_failed failed loads, told, CommandLine.transcriptOf,
    CommandLine.complaining_of_takes takes, same, shown]

/-- Loading a file that is there and can be read returns a config, or ends in a declared
failure that the commands report, if the error output takes the message; one that escapes
surrogates always does. It ends in no other failure unless the content is to blame: bytes that
are no UTF-8, an integer with too many digits, a surrogate in a label. The tree stays as it is
in any case. -/
theorem load_fails_as_declared (session : Session) {setting : Setting} {path : Option Path}
    {resolved : Path} {content : Bytes}
    (found : resolve setting session.tree path = .ok resolved)
    (readable : session.tree.readFile [] resolved = .ok content) :
    (load setting path).Ends session (fun _ after => after.tree = session.tree)
      fun failure after => after.tree = session.tree ∧
        (Undeclared content failure ∨ Declared resolved failure ∧
          ∀ errors : ErrorOutput, errors.Takes failure.message →
            ∀ request : Request, request.config = path →
              Reported errors setting request session failure after.log) := by
  have ends := load_ends setting path session
  have read : readContent session.tree resolved = .ok content := by
    rw [readContent, readable]
  unfold Action.Ends
  cases outcome : load setting path session with
  | ok config after => exact (ends.of_returned outcome).1
  | error failure after =>
      obtain ⟨same, failed⟩ := ends.of_failed outcome
      rw [loaded_of_read found read] at failed
      refine ⟨same, ?_⟩
      rcases ofContent_error failed with declared | undeclared
      · refine .inr ⟨declared, fun errors takes request named => ?_⟩
        subst named
        exact declared.reported outcome same takes
      · exact .inl undeclared

/-- The tree with one file, which is the config that is loaded by default. -/
def treeWith (content : Bytes) : FileTree :=
  FileTree.empty.putWithParents [defaultFile] (.file content)

/-- A setting whose current directory is the root. -/
def atRoot : Setting := ⟨[], none⟩

/-- The absolute path of the config that is loaded by default. -/
def rootFile : Path := Path.ofLocation [defaultFile]

/-- A list in the place of a config is a declared failure, and the commands report it. -/
theorem load_list_fails_as_declared :
    resolve atRoot (treeWith [0x5B, 0x5D]) none = .ok rootFile ∧
      (treeWith [0x5B, 0x5D]).readFile [] rootFile = .ok [0x5B, 0x5D] ∧
      ∃ after, load atRoot none ⟨treeWith [0x5B, 0x5D], []⟩ =
          .error (.complaint (.ofViolation .notAnObject)) after ∧
        Declared rootFile (.complaint (.ofViolation .notAnObject)) ∧
        ∀ (errors : ErrorOutput) (request : Request), request.config = none →
          Reported errors atRoot request ⟨treeWith [0x5B, 0x5D], []⟩
            (.complaint (.ofViolation .notAnObject)) after.log := by
  have found : resolve atRoot (treeWith [0x5B, 0x5D]) none = .ok rootFile := by decide +kernel
  have readable : (treeWith [0x5B, 0x5D]).readFile [] rootFile = .ok [0x5B, 0x5D] := by
    decide +kernel
  have failed : loaded atRoot (treeWith [0x5B, 0x5D]) none =
      .error (.complaint (.ofViolation .notAnObject)) := by decide +kernel
  obtain ⟨after, outcome, -⟩ := load_of_loaded_error ⟨treeWith [0x5B, 0x5D], []⟩ failed
  have ends := load_fails_as_declared ⟨treeWith [0x5B, 0x5D], []⟩ found readable
  rcases (ends.of_failed outcome).2 with undeclared | ⟨declared, reported⟩
  · cases undeclared
  · exact ⟨found, readable, after, outcome, declared,
      fun errors => reported errors fun _ => by decide⟩

/-- The bytes of a document whose prefix is a lone surrogate. -/
def surrogatePrefix : Bytes :=
  (text "\x7b\"prefix\": \"\\ud800\", \"tokens\": \x7b\x7d\x7d").flatMap Utf8.encodePoint

/-- Loading a file with a content fails in a way that is not declared. -/
def FailsUndeclared (content : Bytes) (failure : Failure) : Prop :=
  (∃ after, load atRoot none ⟨treeWith content, []⟩ = .error failure after) ∧
    ¬ Declared rootFile failure

/-- A byte that is no UTF-8, and a prefix that is a lone surrogate, each make the loading
of a file fail in a way that is not declared. -/
theorem load_fails_undeclared :
    FailsUndeclared [0xFF] (.undecodable ⟨0, 0, 0xFF, .startByte⟩) ∧
      FailsUndeclared surrogatePrefix (.fields [⟨[.field .scope], .notScalar⟩]) := by
  have fails {content : Bytes} {failure : Failure}
      (failed : loaded atRoot (treeWith content) none = .error failure) :
      ∃ after, load atRoot none ⟨treeWith content, []⟩ = .error failure after :=
    (load_of_loaded_error ⟨treeWith content, []⟩ failed).imp fun _ both => both.1
  refine ⟨⟨fails ?_, nofun⟩, fails ?_, nofun⟩
  · decide +kernel
  · decide +kernel

end Config

end DesignTokens
