import DesignTokens.Proofs.Artifact.Encoding
import DesignTokens.Proofs.Artifact.Outputs
import DesignTokens.Proofs.FileTree.Refusal

/-!
# What keeps artifacts from being written

Once the snippet is at hand, a run fails for what the file system holds, and the command
line reports that. It can also fail for the strings of the config itself: for a surrogate
in a token, and for a path that no file can have. The checks of a config let both pass,
and neither failure is reported. Nothing else keeps the artifacts from being written.
-/

namespace DesignTokens

open FileTree

/-- What is said of an access that the file system refuses holds no surrogate. -/
theorem AccessFault.isScalar_message (cause : AccessCause) (path : Path) :
    (AccessFault.system cause path).message.isScalar = true := by
  cases cause <;>
    simp [AccessFault.message, AccessCause.wording, Text.isScalar_append, Text.isScalar_quoted]

namespace Artifact

/-- The texts of a config that become paths can be named. -/
def NameablePaths (config : Config) : Prop :=
  config.tokensPath.isNameable = true ∧ config.outDir.isNameable = true

variable {setting : Setting} {base : Path} {config : Config} {snippet : Text} {session : Session}

/-- The path of an artifact can be named exactly when the text of the config in it can. -/
theorem isNameable_outputPath (artifact : Artifact) :
    (artifact.outputPath config).isNameable =
      if artifact = plainStylesheet then config.tokensPath.isNameable
      else config.outDir.isNameable := by
  refine all_outputPath (by decide) (fun artifact => ?_) artifact
  cases artifact <;> decide

/-- Artifacts go to paths that can be named if the base and the texts of the config can. -/
theorem nameable_outputIn (baseNameable : base.Nameable) (nameable : NameablePaths config)
    (artifact : Artifact) : (artifact.outputIn base config).Nameable := by
  refine baseNameable.under (Path.nameable_ofText_iff.mpr ?_)
  rw [isNameable_outputPath]
  split
  · exact nameable.1
  · exact nameable.2

/-- Why an artifact cannot be written: the file system is against it, a token holds a
surrogate, or its path cannot be named. -/
inductive Obstacle (base : Path) (config : Config) : Failure -> Prop
  | system (cause : AccessCause) (asked : Path) :
      Obstacle base config (.access (.system cause asked))
  | token (fault : Utf8.EncodeFault) (surrogate : ¬ config.ScalarTokens) :
      Obstacle base config (.unencodable fault)
  | name (fault : NameFault) (unnameable : ¬ (base.Nameable ∧ NameablePaths config)) :
      Obstacle base config (.access (.name fault))

/-- What refuses the path of an artifact is an obstacle. -/
theorem Obstacle.of_refused (artifact : Artifact) {fault : AccessFault}
    (refused : Refused (artifact.outputIn base config) fault) :
    Obstacle base config (.access fault) := by
  cases refused with
  | system cause asked => exact .system cause asked
  | name fault unnameable =>
      refine .name fault fun nameable => unnameable ?_
      exact nameable_outputIn nameable.1 nameable.2 artifact

/-- An artifact without an encoding is an obstacle. -/
theorem Obstacle.of_encoded_error (plain : snippet.isScalar = true) {artifact : Artifact}
    {failure : Failure} (failed : encoded (artifact.content config snippet) = .error failure) :
    Obstacle base config failure := by
  unfold encoded at failed
  cases outcome : Utf8.encode (artifact.content config snippet) with
  | ok bytes =>
      rw [outcome] at failed
      cases failed
  | error fault =>
      rw [outcome] at failed
      cases failed
      refine .token fault fun scalar => ?_
      have whole := isScalar_content scalar plain artifact
      obtain ⟨bytes, encodes⟩ := Utf8.exists_encode_iff.mpr whole
      cases outcome.symm.trans encodes

/-- Writing one artifact fails for an obstacle only. -/
theorem deliver_obstacle (plain : snippet.isScalar = true) (artifact : Artifact) :
    (deliver setting base (artifact.outputPath config) (artifact.content config snippet)).Ends
      session (fun _ _ => True) fun failure _ => Obstacle base config failure := by
  unfold deliver
  refine Action.ends_bind.mpr (Action.ends_extend (fun grown _ => ?_) fun fault grown refused => ?_)
  · refine Action.ends_bind.mpr (Action.ends_require (fun bytes _ => ?_) fun failure failed => ?_)
    · refine Action.ends_bind.mpr (Action.ends_change (fun tree _ => ?_) fun fault refused => ?_)
      · exact Action.ends_bind.mpr (Action.ends_record (Action.ends_pure trivial))
      · exact .of_refused artifact (refused_of_writeFile refused)
    · exact .of_encoded_error plain failed
  · have above : Refused (artifact.outputIn base config).parent fault :=
      refused_of_createDirectories refused
    exact .of_refused artifact above.of_parent

/-- A run that has written every artifact was given tokens without surrogates and texts
that can be named. -/
theorem scalarTokens_of_wrote {current : Location} {before after : FileTree}
    (wrote : WroteInOrder current (writes base config snippet) before after) :
    config.ScalarTokens ∧ NameablePaths config := by
  have nameable (artifact : Artifact) : (artifact.outputPath config).isNameable = true := by
    have located := wrote.locate_eq (write_mem_writes base config snippet artifact)
    have named := Path.exists_nameBytes_toText_iff.mp (locate_eq_ok_iff.mp located).1.named
    exact Path.nameable_ofText_iff.mp named.of_under
  have encodes := wrote.encoded (write_mem_writes base config snippet plainStylesheet)
  refine ⟨Stylesheet.isScalar_plain_iff.mp (Utf8.exists_encode_iff.mp encodes), ?_, ?_⟩
  · exact nameable plainStylesheet
  · simpa [isNameable_outputPath] using nameable theme

/-- The command line tells of a failure to deliver a config that it has loaded: the message
is the line behind the log, whatever the error output, and the run exits with code 1. -/
def Told (setting : Setting) (base : Option Path) (config : Config) (session : Session)
    (failure : Failure) (after : Session) : Prop :=
  ∀ (request : Request) (start : Session) (errors : ErrorOutput) (verbose : Bool),
    request.dryRun = false → request.base = base →
    Config.load setting request.config start = .ok config session →
    CommandLine.transcriptOf errors verbose (Command.generate.perform setting request start) =
      ⟨[], CommandLine.logText errors verbose after.log ++
        (Text.stripControlSequences (programName ++ text ": " ++ failure.message) ++ text "\n"),
        .exit 1, after.tree⟩

/-- A failure for what the file system holds is told. -/
theorem told_of_system {base : Option Path} {after : Session} {cause : AccessCause} {path : Path}
    (failed : deliverAll setting base config session =
      .error (.access (.system cause path)) after) :
    Told setting base config session (.access (.system cause path)) after := by
  intro request start errors verbose writing same loaded
  subst same
  have run : Command.generate.perform setting request start =
      .ok (.refused (Failure.access (.system cause path)).message) after := by
    simp only [Command.perform, Command.produce, Command.withConfig, Command.stage, loaded,
      writing, Bool.false_eq_true, if_false, Command.deliver, failed]
    rfl
  have scalar : (Failure.access (.system cause path)).message.isScalar = true :=
    AccessFault.isScalar_message cause path
  rw [run, CommandLine.transcriptOf, CommandLine.complaining_of_takes fun _ => scalar,
    CommandLine.complaintLine_of_isScalar scalar]
  rfl

/-- With the snippet at hand, a run that returns was given tokens without surrogates and
texts that can be named. One that fails does so for what the file system holds, which the
command line tells, or for a surrogate in a token, or for a path that cannot be named. -/
theorem deliverAll_obstacles {base : Option Path}
    (taken : Artifact.snippet setting session.tree = .ok snippet) :
    (deliverAll setting base config).Ends session
      (fun _ _ => config.ScalarTokens ∧ NameablePaths config)
      fun failure after => Obstacle (baseDirectory setting base) config failure ∧
        (failure.families = [.system] → Told setting base config session failure after) := by
  have fails : (deliverAll setting base config).Ends session (fun _ _ => True)
      fun failure _ => Obstacle (baseDirectory setting base) config failure :=
    ends_deliverAll taken fun middle _ => Action.ends_mapM trivial fun artifact _ before _ =>
      deliver_obstacle (isScalar_snippet taken) artifact
  refine fails.recorded.imp (fun files after returned => ?_) fun failure after failed => ?_
  · obtain ⟨_, -, -, wrote⟩ := wrote_of_deliverAll returned.1
    exact scalarTokens_of_wrote wrote
  · obtain ⟨outcome, obstacle⟩ := failed
    refine ⟨obstacle, fun system => ?_⟩
    cases obstacle with
    | system cause asked => exact told_of_system outcome
    | token => cases system
    | name => cases system

/-- With an empty template and no tokens, nothing but the file system could be in the way. -/
theorem deliverAll_obstacles_default :
    Artifact.snippet atTemplates blankSession.tree = .ok [] ∧
      (deliverAll atTemplates none (tokenless Config.defaultTokensPath)).Ends blankSession
        (fun _ _ => (tokenless Config.defaultTokensPath).ScalarTokens ∧
          NameablePaths (tokenless Config.defaultTokensPath))
        fun failure after =>
          Obstacle (baseDirectory atTemplates none) (tokenless Config.defaultTokensPath) failure ∧
            (failure.families = [.system] → Told atTemplates none
              (tokenless Config.defaultTokensPath) blankSession failure after) := by
  have taken : Artifact.snippet atTemplates blankSession.tree = .ok [] := by decide +kernel
  exact ⟨taken, deliverAll_obstacles taken⟩

/-- There is no other obstacle: with the snippet at hand, tokens without surrogates, and nothing
in the way of any artifact, the run returns. The paths are apart when none of them leads
through the end of another. -/
theorem deliverAll_returns {base : Option Path}
    (taken : Artifact.snippet setting session.tree = .ok snippet) (scalar : config.ScalarTokens)
    (clear : ∀ artifact : Artifact,
      Clear setting.current (artifact.outputIn (baseDirectory setting base) config) session.tree)
    (apart : ∀ artifact other : Artifact,
      (artifact.outputIn (baseDirectory setting base) config).locationOf setting.current ∉
        (other.outputIn (baseDirectory setting base) config).above setting.current) :
    ∃ files after, deliverAll setting base config session = .ok files after := by
  refine deliverAll_of_unobstructed taken ⟨fun write member => ?_, fun write member => ?_,
    fun write member => ?_⟩
  · obtain ⟨artifact, -, rfl⟩ := List.mem_map.mp member
    exact clear artifact
  · intro other among
    obtain ⟨artifact, -, rfl⟩ := List.mem_map.mp member
    obtain ⟨another, -, rfl⟩ := List.mem_map.mp among
    exact apart artifact another
  · obtain ⟨artifact, -, rfl⟩ := List.mem_map.mp member
    exact Utf8.exists_encode_iff.mpr (isScalar_content scalar (isScalar_snippet taken) artifact)

/-- The bytes of a document that has one token, whose value is a lone surrogate. -/
def surrogateToken : Bytes :=
  (text "\x7b\"prefix\": \"x\", \"tokens\": \x7b\"color\": " ++
    text "\x7b\"a\": \x7b\"value\": \"\\ud800\"\x7d\x7d\x7d\x7d").flatMap Utf8.encodePoint

/-- The bytes of a document without tokens, whose plain stylesheet is to go to a path with a
null character. -/
def nullPath : Bytes :=
  (text "\x7b\"prefix\": \"x\", \"tokens\": \x7b\x7d, \"tokensPath\": \"a\\u0000b\"\x7d").flatMap
    Utf8.encodePoint

/-- A config is loaded of a content, and writing its artifacts fails. -/
def FailsAfterLoading (content : Bytes) (failure : Failure) : Prop :=
  (Config.load Config.atRoot none).Ends ⟨Config.treeWith content, []⟩
    (fun config loaded => (deliverAll Config.atRoot none config).Ends loaded (fun _ _ => False)
      fun other _ => other = failure)
    fun _ _ => False

instance (content : Bytes) (failure : Failure) : Decidable (FailsAfterLoading content failure) :=
  inferInstanceAs (Decidable (Action.Ends _ _ _ _))

/-- A config that was loaded may have strings for which its artifacts cannot be written: a
value that has no encoding, or a path that no file can have. -/
theorem deliverAll_fails_for_strings :
    FailsAfterLoading surrogateToken (.unencodable ⟨86, 86, ⟨0xD800, by decide⟩⟩) ∧
      FailsAfterLoading nullPath (.access (.name .nul)) := by
  decide +kernel

end Artifact

end DesignTokens
