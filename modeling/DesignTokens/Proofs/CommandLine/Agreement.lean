import DesignTokens.Proofs.Artifact.Outputs
import DesignTokens.Proofs.CommandLine.Invocation
import DesignTokens.Proofs.CommandLine.Log
import DesignTokens.Proofs.Text.Scalar

/-!
# The command and the operation behind it

The command that writes every artifact loads and writes in two stages, each of which tells
other failures. It does what the one operation of that name does, and its outputs and its exit
code tell how that ended, unless there is no directory from which to seek the config: that
failure is of the system, and the first stage does not tell it. When there is no config to be
had, the commands that look for one all end alike and change nothing.
-/

namespace DesignTokens

namespace Command

variable {setting : Setting} {request : Request} {session : Session}

/-- A failure of a family that is told becomes a message. -/
theorem settle_of_told {told : List Family} {failure : Failure} {family : Family}
    (member : family ∈ failure.families) (tells : family ∈ told) (session : Session) :
    settle told failure session = .ok (.refused failure.message) session :=
  if_pos (List.any_eq_true.mpr ⟨family, member, by simpa using tells⟩)

/-- A failure of no family that is told stays what it is. -/
theorem settle_of_untold {told : List Family} {failure : Failure}
    (silent : ∀ family ∈ failure.families, family ∉ told) (session : Session) :
    settle told failure session = .error failure session := by
  refine if_neg fun tells => ?_
  obtain ⟨family, member, listed⟩ := List.any_eq_true.mp tells
  exact silent family member (by simpa using listed)

/-- Families that a failure is not of make no difference. -/
theorem settle_congr {told others : List Family} {failure : Failure}
    (same : ∀ family ∈ failure.families, family ∈ told ↔ family ∈ others) (session : Session) :
    settle told failure session = settle others failure session := by
  have tells : failure.families.any told.contains = failure.families.any others.contains := by
    rw [Bool.eq_iff_iff, List.any_eq_true, List.any_eq_true]
    simp only [List.contains_iff_mem]
    exact exists_congr fun family => and_congr_right (same family)
  unfold settle
  rw [tells]

/-- The families that are told of a failure to produce artifacts: once a config was loaded,
those of the stage that writes. -/
def toldOnceLoaded : Except Failure Config -> List Family
  | .ok _ => [.tool, .system]
  | .error _ => [.tool]

/-- Loading a config and then writing its artifacts, each as a stage of its own, ends as the
one operation that does both: it prints what was written, and tells a complaint of the tool.
A failure of the system is told only where a config was loaded before. -/
theorem produce_eq (writes : request.dryRun = false) :
    produce setting request session =
      match Artifact.generate setting request.config request.base session with
      | .ok files after => .ok (.done (deliveredLines files)) after
      | .error failure after =>
          settle (toldOnceLoaded (Config.loaded setting session.tree request.config)) failure
            after := by
  unfold produce withConfig stage
  rw [writes]
  have ends := Config.load_ends setting request.config session
  cases outcome : Config.load setting request.config session with
  | error failure after =>
      have whole : Artifact.generate setting request.config request.base session =
          .error failure after := Action.bind_of_failed _ outcome
      rw [whole, (ends.of_failed outcome).2]
      rfl
  | ok config middle =>
      have whole : Artifact.generate setting request.config request.base session =
          Artifact.deliverAll setting request.base config middle :=
        Action.bind_of_returned _ outcome
      rw [whole, (ends.of_returned outcome).2]
      simp only [Bool.false_eq_true, if_false, deliver, stage]
      cases Artifact.deliverAll setting request.base config middle <;> rfl

/-- Where the directory to seek a config from is there, the command tells every failure of the
tool or of the system, and no other. -/
theorem settle_toldOnceLoaded {after : Session} {failure : Failure}
    (standing : ¬ Config.Adrift setting session.tree request.config)
    (failed : Artifact.generate setting request.config request.base session =
      .error failure after) :
    settle (toldOnceLoaded (Config.loaded setting session.tree request.config)) failure after =
      settle [.tool, .system] failure after := by
  cases found : Config.loaded setting session.tree request.config with
  | ok config => rfl
  | error refusal =>
      obtain ⟨stopped, outcome, -⟩ := Config.load_of_loaded_error session found
      have whole : Artifact.generate setting request.config request.base session =
          .error refusal stopped := Action.bind_of_failed _ outcome
      cases failed.symm.trans whole
      have silent : .system ∉ failure.families := by
        rcases Config.loaded_error_cases found with
          ⟨_, rfl⟩ | ⟨adrift, -⟩ | ⟨_, rfl⟩ | ⟨_, _, declared | undeclared⟩
        · nofun
        · exact absurd adrift standing
        · nofun
        · cases declared <;> nofun
        · cases undeclared <;> nofun
      refine settle_congr (fun family member => ?_) after
      have other : family ≠ .system := fun system => silent (system ▸ member)
      cases family with
      | tool | config => simp [toldOnceLoaded]
      | system => exact absurd rfl other

/-- What is printed of files holds no surrogate if their paths hold none. -/
theorem isScalar_deliveredLines {files : List DeliveredFile}
    (plain : ∀ file ∈ files, file.path.isScalar = true) :
    ∀ line ∈ deliveredLines files, line.isScalar = true := by
  refine List.forall_mem_cons.mpr ⟨by decide, fun line listed => ?_⟩
  obtain ⟨file, member, rfl⟩ := List.mem_map.mp listed
  simp [deliveredLine, Text.isScalar_append, plain file member]

end Command

namespace Artifact

variable {setting : Setting} {config : Config}

/-- The path of an artifact holds no surrogate if the paths of the config hold none. -/
theorem isScalar_outputPath (tokensPath : config.tokensPath.isScalar = true)
    (outDir : config.outDir.isScalar = true) (artifact : Artifact) :
    (artifact.outputPath config).isScalar = true := by
  have labels (artifact : Artifact) : artifact.label.isScalar = true := by
    cases artifact <;> decide
  refine (all_outputPath (by decide) labels artifact).trans ?_
  split
  · exact tokensPath
  · exact outDir

/-- What is prepared holds the config that was loaded. -/
theorem loaded_of_prepared {tree : FileTree} {path : Option Path} {snippet : Text}
    (found : prepared setting tree path = .ok (config, snippet)) :
    Config.loaded setting tree path = .ok config := by
  obtain ⟨loaded, known, rest⟩ := eq_ok_of_bind found
  obtain ⟨_, -, both⟩ := eq_ok_of_bind rest
  cases both
  exact known

/-- The paths of the files that were written hold no surrogate if those of the config that
was loaded hold none. -/
theorem isScalar_path_of_generate {path base : Option Path} (session : Session)
    {after : Session} {files : List DeliveredFile}
    (plain : ∀ loaded, Config.loaded setting session.tree path = .ok loaded →
      loaded.tokensPath.isScalar = true ∧ loaded.outDir.isScalar = true)
    (returned : generate setting path base session = .ok files after) :
    ∀ file ∈ files, file.path.isScalar = true := by
  obtain ⟨config, snippet, found, records, -⟩ := wrote_of_generate returned
  obtain ⟨tokensPath, outDir⟩ := plain config (loaded_of_prepared found)
  have paths : files.map DeliveredFile.path = all.map (outputPath config) := by
    rw [← List.forall₂_eq_eq_eq, List.forall₂_map_left_iff, List.forall₂_map_right_iff]
    exact records.imp fun _ _ recorded => recorded.1
  intro file member
  have listed : file.path ∈ all.map (outputPath config) := paths ▸ List.mem_map_of_mem member
  obtain ⟨artifact, -, same⟩ := List.mem_map.mp listed
  exact same ▸ isScalar_outputPath tokensPath outDir artifact

end Artifact

namespace CommandLine

/-- A run agrees with the outcome of the operation behind it: it leaves the same tree, and it
tells the files that were written, or a failure of the tool or of the system. Any other
failure ends the run as it is. -/
inductive Agrees : EStateM.Result Failure Session (List DeliveredFile) -> Transcript -> Prop
  | returned (files : List DeliveredFile) (after : Session) :
      Agrees (.ok files after)
        ⟨(Command.deliveredLines files).map fun line => .plain (shownLine line), [], .exit 0,
          after.tree⟩
  | told (failure : Failure) (after : Session)
      (family : .tool ∈ failure.families ∨ .system ∈ failure.families) :
      Agrees (.error failure after) ⟨[], complaintLine failure.message, .exit 1, after.tree⟩
  | escaped (failure : Failure) (after : Session)
      (family : ¬ (.tool ∈ failure.families ∨ .system ∈ failure.families)) :
      Agrees (.error failure after) ⟨[], [], .failed failure, after.tree⟩

/-- A command that writes every artifact agrees with the operation, if the directory to seek a
config from is there and the paths of the files that it tells hold no surrogate. -/
theorem agrees_perform {setting : Setting} {request : Request} {tree : FileTree}
    (writes : request.dryRun = false)
    (standing : ¬ Config.Adrift setting tree request.config) (plain : ∀ files after,
      Artifact.generate setting request.config request.base ⟨tree, []⟩ = .ok files after →
        ∀ file ∈ files, file.path.isScalar = true) :
    Agrees (Artifact.generate setting request.config request.base ⟨tree, []⟩)
      (transcriptOf .escaping false (Command.generate.perform setting request ⟨tree, []⟩)) := by
  -- Nothing that is logged on the way is a warning, so that none of it is shown.
  have silent := Artifact.silent_generate setting request.config request.base ⟨tree, []⟩ nofun
  rw [Command.perform, Command.produce_eq writes]
  cases outcome : Artifact.generate setting request.config request.base ⟨tree, []⟩ with
  | ok files after =>
      have lines := echoAll_of_scalar (Command.isScalar_deliveredLines (plain files after outcome))
      simp only [transcriptOf, lines, logText_of_quiet (silent.of_returned outcome)]
      exact .returned files after
  | error failure after =>
      have quiet := logText_of_quiet (silent.of_failed outcome) .escaping
      simp only [Command.settle_toldOnceLoaded standing outcome]
      by_cases family : .tool ∈ failure.families ∨ .system ∈ failure.families
      · have told : Command.settle [.tool, .system] failure after =
            .ok (.refused failure.message) after := by
          rcases family with tool | system
          · exact Command.settle_of_told tool (by decide) after
          · exact Command.settle_of_told system (by decide) after
        rw [told, transcriptOf, complaining_of_takes (ErrorOutput.takes_escaping _), quiet]
        exact .told failure after family
      · have untold : Command.settle [.tool, .system] failure after = .error failure after :=
          Command.settle_of_untold (fun other member listed => family (by
            rcases List.mem_pair.mp listed with rfl | rfl
            · exact .inl member
            · exact .inr member)) after
        rw [untold, transcriptOf, quiet]
        exact .escaped failure after family

/-- Where there is no directory to seek a config from, the operation and the command fail at
once for the same reason, and the command tells nothing. -/
theorem adrift_perform {setting : Setting} {request : Request} {tree : FileTree}
    (named : (Config.sought request.config).nameFault? = none)
    (adrift : Config.Adrift setting tree request.config) :
    Artifact.generate setting request.config request.base ⟨tree, []⟩ =
        .error (.access (.system .notFound none)) ⟨tree, []⟩ ∧
      transcriptOf .escaping false (Command.generate.perform setting request ⟨tree, []⟩) =
        ⟨[], [], .failed (.access (.system .notFound none)), tree⟩ := by
  have stops : Config.load setting request.config ⟨tree, []⟩ =
      .error (.access (.system .notFound none)) ⟨tree, []⟩ := by
    have seen : (get : Action Session) ⟨tree, []⟩ = .ok ⟨tree, []⟩ ⟨tree, []⟩ := rfl
    refine (Action.bind_of_returned _ seen).trans (Action.bind_of_failed _ ?_)
    rw [Config.resolve_of_adrift named adrift]
    rfl
  refine ⟨Action.bind_of_failed _ stops, ?_⟩
  rw [Config.perform_of_failed stops (by decide)]
  rfl

/-- Where there is no config to be loaded, the commands that load one end alike. -/
theorem transcriptOf_perform_of_failed {errors : ErrorOutput} {setting : Setting}
    {tree : FileTree} {failure : Failure} (first second : Request) {command : Command}
    (failed : Config.loaded setting tree first.config = .error failure)
    (same : second.config = first.config) (loads : command ∈ Config.loadingCommands) :
    transcriptOf errors false (command.perform setting second ⟨tree, []⟩) =
      transcriptOf errors false (Command.generate.perform setting first ⟨tree, []⟩) ∧
    (transcriptOf errors false (Command.generate.perform setting first ⟨tree, []⟩)).tree =
      tree := by
  obtain ⟨after, stopped, kept⟩ := Config.load_of_loaded_error ⟨tree, []⟩ failed
  have again : Config.load setting second.config ⟨tree, []⟩ = .error failure after :=
    same ▸ stopped
  have generates : Command.generate ∈ Config.loadingCommands := by decide
  rw [Config.perform_of_failed again loads, Config.perform_of_failed stopped generates]
  exact ⟨rfl, (transcriptOf_settle errors false [.tool] failure after).2.2.trans kept⟩

/-- Words that name files lead to a path that can be named. -/
theorem nameFault?_sought {config : Option Text} (named : refusedName? config.toList = none) :
    (Config.sought (config.map Path.ofText)).nameFault? = none := by
  refine Path.nameFault?_of_nameable ?_
  cases config with
  | none => exact Path.nameable_ofText_iff.mpr (by decide)
  | some value =>
      refine Path.nameable_ofText_iff.mpr (exists_nameBytes_iff.mp ?_)
      have alone := List.findSome?_eq_none_iff.mp named value (List.mem_singleton_self value)
      cases refused : nameBytes value with
      | ok bytes => exact ⟨bytes, rfl⟩
      | error fault =>
          rw [refused] at alone
          cases alone

/-- Where all words name files, the environment has none to add, and no path of the config holds
a surrogate, the command that writes every artifact agrees with the operation, but for one
failure that both end in at once: there is no directory from which to seek the config. It is of
the system, and yet the command does not tell it. When there is no config to be loaded, a dry
run and the command that checks a config end as the command does, and nothing is changed. A
word that names no file ends every run that is given it before anything else. -/
theorem run_generate_agrees {surroundings : Surroundings} {config base : Option Text}
    {tree : FileTree} (unset : config = none → surroundings.configVariable = none)
    (plain : ∀ loaded,
      Config.loaded surroundings.setting tree (config.map Path.ofText) = .ok loaded →
        loaded.tokensPath.isScalar = true ∧ loaded.outDir.isScalar = true) :
    let call := Artifact.generate surroundings.setting (config.map Path.ofText)
      (base.map Path.ofText) ⟨tree, []⟩
    let real := run surroundings (generateWords false false config base) tree .escaping
    let dry := run surroundings (generateWords false true config base) tree .escaping
    let check := run surroundings (validateWords false config) tree .escaping
    match refusedName? (config.toList ++ base.toList) with
    | some fault => real = ⟨[], [], .failed (.access (.name fault)), tree⟩ ∧ dry = real ∧
        (refusedName? config.toList ≠ none → check = real)
    | none =>
        (if Config.Adrift surroundings.setting tree (config.map Path.ofText) then
          call = .error (.access (.system .notFound none)) ⟨tree, []⟩ ∧
            real = ⟨[], [], .failed (.access (.system .notFound none)), tree⟩
        else Agrees call real) ∧
        ∀ failure,
          Config.loaded surroundings.setting tree (config.map Path.ofText) = .error failure →
            dry = real ∧ check = real ∧ real.tree = tree := by
  have nowhere : environmentConfig surroundings config = none := by
    unfold environmentConfig
    cases config with
    | none => simp [unset rfl]
    | some value => rfl
  simp only [run_generateWords, run_validateWords, nowhere, Option.toList_none, List.append_nil,
    Option.or_none]
  cases named : refusedName? (config.toList ++ base.toList) with
  | some fault =>
      refine ⟨rfl, rfl, fun refused => ?_⟩
      obtain ⟨first, found⟩ := Option.ne_none_iff_exists'.mp refused
      rw [refusedName?, List.findSome?_append, ← refusedName?, found] at named
      cases named
      simp only [found]
  | none =>
      have alone : refusedName? config.toList = none := by
        rw [refusedName?, List.findSome?_append, Option.or_eq_none_iff] at named
        exact named.1
      refine ⟨?_, fun failure failed => ?_⟩
      · split
        next adrift =>
          exact @adrift_perform surroundings.setting (requestOf config base false) tree
            (nameFault?_sought alone) adrift
        next standing =>
          exact @agrees_perform surroundings.setting (requestOf config base false) tree rfl standing
            fun files after returned => Artifact.isScalar_path_of_generate ⟨tree, []⟩ plain returned
      · have generates : Command.generate ∈ Config.loadingCommands := by decide
        have validates : Command.validate ∈ Config.loadingCommands := by decide
        have shown := @transcriptOf_perform_of_failed .escaping _ _ _ (requestOf config base false)
          (requestOf config base true) _ failed rfl generates
        have checked := @transcriptOf_perform_of_failed .escaping _ _ _
          (requestOf config base false) (requestOf config none false) _ failed rfl validates
        simp only [alone]
        exact ⟨shown.1, checked⟩

/-- The bytes of the shortest document that is a config. -/
def shortestConfig : Bytes :=
  (text "\x7b\"prefix\": \"x\", \"tokens\": \x7b\x7d\x7d").flatMap Utf8.encodePoint

/-- The tree with that config and an empty template. -/
def shortestTree : FileTree :=
  Artifact.blankSession.tree.putWithParents [Config.defaultFile] (.file shortestConfig)

/-- The command agrees with the operation where both write the artifacts of that config. -/
theorem run_generate_agrees_shortest :
    let surroundings : Surroundings := ⟨Artifact.atTemplates, none⟩
    (∀ loaded, Config.loaded Artifact.atTemplates shortestTree none = .ok loaded →
      loaded.tokensPath.isScalar = true ∧ loaded.outDir.isScalar = true) ∧
    ¬ Config.Adrift Artifact.atTemplates shortestTree none ∧
    Agrees (Artifact.generate Artifact.atTemplates none none ⟨shortestTree, []⟩)
      (run surroundings (generateWords false false none none) shortestTree .escaping) := by
  intro surroundings
  have plain : ∀ loaded, Config.loaded Artifact.atTemplates shortestTree none = .ok loaded →
      loaded.tokensPath.isScalar = true ∧ loaded.outDir.isScalar = true := by
    have paths : (Config.loaded Artifact.atTemplates shortestTree none).toOption.map
        (fun loaded => loaded.tokensPath.isScalar && loaded.outDir.isScalar) = some true := by
      decide +kernel
    intro loaded found
    rw [found] at paths
    simpa [Except.toOption] using paths
  have standing : ¬ Config.Adrift Artifact.atTemplates shortestTree none := by decide +kernel
  have agrees := (@run_generate_agrees surroundings none none shortestTree (fun _ => rfl) plain).1
  exact ⟨plain, standing, (if_neg standing).mp agrees⟩

/-- The bytes of a document that has a category whose name is a lone surrogate. -/
def surrogateCategory : Bytes :=
  (text "\x7b\"prefix\": \"x\", \"tokens\": \x7b\"\\ud800\": \x7b\x7d\x7d\x7d").flatMap
    Utf8.encodePoint

/-- A name that holds a null character. -/
def nullName : Text := text "a\x00b"

/-- A setting whose current directory is gone from the empty tree. -/
def deserted : Setting := ⟨[text "gone"], none⟩

/-- The operation may fail for the system or the tool and the command not exit with code 1:
the current directory may be gone, the base directory may be one that the command refuses
before it looks for a config, and a strict error output does not take a complaint about a name
that has no encoding. -/
theorem run_generate_disagrees :
    let complains : Failure -> Session -> Prop := fun failure _ =>
      .tool ∈ failure.families ∨ .system ∈ failure.families
    ((Artifact.generate deserted none none).Ends ⟨.empty, []⟩ (fun _ _ => False) complains ∧
      (run ⟨deserted, none⟩ (generateWords false false none none) .empty .escaping).ending ≠
        .exit 1) ∧
    ((Artifact.generate Config.atRoot none (some (Path.ofText nullName))).Ends ⟨.empty, []⟩
        (fun _ _ => False) complains ∧
      (run ⟨Config.atRoot, none⟩ (generateWords false false none (some nullName)) .empty
        .escaping).ending ≠ .exit 1) ∧
    (Artifact.generate Config.atRoot none none).Ends ⟨Config.treeWith surrogateCategory, []⟩
        (fun _ _ => False) complains ∧
      (run ⟨Config.atRoot, none⟩ (generateWords false false none none)
        (Config.treeWith surrogateCategory) .strict).ending ≠ .exit 1 := by
  decide +kernel

end CommandLine

end DesignTokens
