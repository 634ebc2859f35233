import DesignTokens.CommandLine.Command
import DesignTokens.Text.ControlSequence

/-!
# The command line

A run of the program takes arguments and a file tree and yields a transcript: what
went to the two outputs, how the run ended, and the file tree it left. Options in
front of the command are read first, and those that show something end the run.
-/

namespace DesignTokens

/-- A part of the standard output. -/
inductive Shown where
  /-- The help text of the program or of a command. -/
  | help (command : Option Command)
  | plain (content : Text)
  deriving DecidableEq, Repr

/-- How a run ends. -/
inductive Ending where
  | exit (code : Nat)
  | usage (fault : UsageFault)
  | failed (failure : Failure)
  deriving DecidableEq, Repr

/-- What a run of the program amounts to. What went to the error output is shown without
the times of the log. -/
structure Transcript where
  output : List Shown
  errors : Text
  ending : Ending
  tree : FileTree

/-- How the error output takes text that has no encoding. -/
inductive ErrorOutput where
  /-- Every surrogate is written as an escape sequence: that of a process does so. -/
  | escaping
  /-- The text is refused, as it is by the standard output: one that is captured may do so. -/
  | strict
  deriving DecidableEq, Repr

/-- What a run finds around it. -/
structure Surroundings where
  setting : Setting
  /-- The config file that the environment names. -/
  configVariable : Option Text

namespace CommandLine

/-- A line as it goes to an output that is no terminal, if it has an encoding. -/
def echo (line : Text) : Except Utf8.EncodeFault Text :=
  let shown := Text.stripControlSequences (line ++ text "\n")
  match Utf8.encodeFault? shown with
  | none => .ok shown
  | some fault => .error fault

/-- The end of a run that cannot write what it has to. -/
def unwritable (fault : Utf8.EncodeFault) : Ending :=
  .failed (.unencodable fault)

/-- What comes of writing lines: those before the first without an encoding go out. -/
def echoAll : List Text -> List Shown × Ending
  | [] => ([], .exit 0)
  | line :: others =>
      match echo line with
      | .ok shown =>
          let rest := echoAll others
          (.plain shown :: rest.1, rest.2)
      | .error fault => ([], unwritable fault)

/-- A line as it goes to the error output, if that takes it. -/
def echoError (line : Text) : ErrorOutput -> Except Utf8.EncodeFault Text
  | .escaping => .ok (Text.stripControlSequences (line ++ text "\n")).escapeSurrogates
  | .strict => echo line

/-- A line of the log as it goes to the error output, which may leave it out. -/
def logged (line : Text) : ErrorOutput -> Text
  | .escaping => line.escapeSurrogates
  | .strict => if line.isScalar then line else []

/-- The log as far as it is shown: warnings, or everything when asked for. -/
def logText (errors : ErrorOutput) (verbose : Bool) (log : List Event) : Text :=
  let shown := log.filter fun event => verbose || event.level = .warning
  (shown.map Event.line).flatMap fun line => logged line errors

/-- A run that stops with a message of the program, after what it has written to the
log; what it shows then goes out only if the message does. -/
def complaining (errors : ErrorOutput) (tree : FileTree) (log message : Text)
    (shown : List Shown) : Transcript :=
  match echoError (programName ++ text ": " ++ message) errors with
  | .ok line => ⟨shown, log ++ line, .exit 1, tree⟩
  | .error fault => ⟨[], log, unwritable fault, tree⟩

/-- A run that shows something and ends. -/
def showing (tree : FileTree) (shown : Shown) : Transcript :=
  ⟨[shown], [], .exit 0, tree⟩

/-- What the options that end a run show, of which the first mentioned counts. -/
def immediate? (command : Option Command) (arguments : Arguments) : Option Shown :=
  arguments.names.findSome? fun name =>
    match name with
    | .help => some (.help command)
    | .version => some (.plain (programName ++ text " " ++ programVersion ++ text "\n"))
    | _ => none

/-- Whether the value of an option is a path. -/
def isPathOption : OptionName -> Bool
  | .config => true
  | .cwd => true
  | .source => true
  | .output => true
  | _ => false

/-- The first fault of a text that has to name a path, of the given ones in the
order of their options and of the one from the environment. -/
def pathFault? (arguments : Arguments) (configElsewhere : Option Text) : Option NameFault :=
  let given := (arguments.names.filter isPathOption).filterMap arguments.value?
  (given ++ configElsewhere.toList).findSome? fun value =>
    match nameBytes value with
    | .ok _ => none
    | .error fault => some fault

/-- The config file that the environment names, where a command asks for one and
its arguments do not name it. -/
def configElsewhere (surroundings : Surroundings) (command : Command) (arguments : Arguments) :
    Option Text :=
  if arguments.has .config || !command.rules.contains Command.configRule then none
  else surroundings.configVariable.filter fun value => !value.isEmpty

/-- The transcript of what came of a command. -/
def transcriptOf (errors : ErrorOutput) (verbose : Bool) :
    EStateM.Result Failure Session Verdict -> Transcript
  | .ok (.done lines) session =>
      let written := echoAll lines
      ⟨written.1, logText errors verbose session.log, written.2, session.tree⟩
  | .ok (.refused message) session =>
      complaining errors session.tree (logText errors verbose session.log) message []
  | .error failure session =>
      ⟨[], logText errors verbose session.log, .failed failure, session.tree⟩

/-- Runs a command on the arguments behind its name. -/
def runCommand (surroundings : Surroundings) (errors : ErrorOutput) (verbose : Bool)
    (command : Command) (words : List Text) (tree : FileTree) : Transcript :=
  match Arguments.read command.rules true words with
  | .error fault => ⟨[], [], .usage fault, tree⟩
  | .ok arguments =>
      match immediate? (some command) arguments with
      | some shown => showing tree shown
      | none =>
          let elsewhere := configElsewhere surroundings command arguments
          match pathFault? arguments elsewhere with
          | some fault => ⟨[], [], .failed (.access (.name fault)), tree⟩
          | none =>
              if !arguments.others.isEmpty then
                ⟨[], [], .usage (.extraArguments arguments.others), tree⟩
              else if command = .help then showing tree (.help none)
              else
                transcriptOf errors verbose
                  (command.perform surroundings.setting (Command.request arguments elsewhere)
                    ⟨tree, []⟩)

/-- The run with a command that is not known. Its words are read as options once
more: those that show something still do so, and the message names the first word
behind them. -/
def runUnknown (errors : ErrorOutput) (words : List Text) (tree : FileTree) : Transcript :=
  let shown :=
    match Arguments.read Command.commonRules false words with
    | .ok arguments => immediate? none arguments
    | .error _ => none
  match shown, Arguments.unread Command.commonRules none words with
  | some shown, _ => showing tree shown
  | none, [] => ⟨[], [], .failed .noWordLeft, tree⟩
  | none, word :: _ =>
      complaining errors tree [] (text "Unknown command: " ++ word) [.help none]

/-- Runs the program, whose error output is taken for one that is captured unless it is told
otherwise. -/
def run (surroundings : Surroundings) (words : List Text) (tree : FileTree)
    (errors : ErrorOutput := .strict) : Transcript :=
  match Arguments.read Command.commonRules false words with
  | .error fault => ⟨[], [], .usage fault, tree⟩
  | .ok arguments =>
      match immediate? none arguments with
      | some shown => showing tree shown
      | none =>
          match arguments.others with
          | [] => showing tree (.help none)
          | name :: rest =>
              match Command.ofName? name with
              | some command =>
                  runCommand surroundings errors (arguments.has .verbose) command rest tree
              | none => runUnknown errors (name :: rest) tree

end CommandLine

end DesignTokens
