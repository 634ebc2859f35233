import DesignTokens.CommandLine

/-!
# What is asked for on the command line

Words that name a command are read as far as the command, and the words behind it by the
rules of the command. The config file and the base directory that are named become paths,
and the environment is asked for a config file when the words name none. No command is
run on a text that cannot name a file.
-/

namespace DesignTokens.CommandLine

/-- The words that give a command the words behind its name. -/
def commandWords (verbose : Bool) (command : Command) (words : List Text) : List Text :=
  (if verbose then [text "--verbose"] else []) ++ command.name :: words

/-- The words of an option, if a value is given for it. -/
def optionWords (spelling : Text) (value : Option Text) : List Text :=
  value.elim [] fun value => [spelling, value]

/-- The words that ask for every artifact, written or shown. -/
def generateWords (verbose dryRun : Bool) (config base : Option Text) : List Text :=
  commandWords verbose .generate
    (optionWords (text "--config") config ++ optionWords (text "--cwd") base ++
      if dryRun then [text "--dry-run"] else [])

/-- The words that ask whether a config is valid. -/
def validateWords (verbose : Bool) (config : Option Text) : List Text :=
  commandWords verbose .validate (optionWords (text "--config") config)

/-- The first fault of texts that have to name files. -/
def refusedName? (values : List Text) : Option NameFault :=
  values.findSome? fun value =>
    match nameBytes value with
    | .ok _ => none
    | .error fault => some fault

/-- The config file that the environment names, where the words name none. -/
def environmentConfig (surroundings : Surroundings) (config : Option Text) : Option Text :=
  if config.isSome then none
  else surroundings.configVariable.filter fun value => !value.isEmpty

/-- What is asked for with a config file, a base directory, or without. -/
def requestOf (config base : Option Text) (dryRun : Bool) : Request where
  config := config.map Path.ofText
  base := base.map Path.ofText
  dryRun := dryRun
  source := Path.ofText Command.defaultSource
  output := Path.ofText Command.defaultOutput

variable (surroundings : Surroundings) (errors : ErrorOutput) (verbose dryRun : Bool)
  (config base : Option Text) (tree : FileTree)

/-- The words up to the name of a command do not change how those behind it are read. -/
theorem run_commandWords (command : Command) (words : List Text) :
    run surroundings (commandWords verbose command words) tree errors =
      runCommand surroundings errors verbose command words tree := by
  cases verbose <;> cases command <;> rfl

/-- A command is run on what its words ask for, unless one of them names no file. -/
theorem runCommand_of_read {command : Command} {words : List Text} {arguments : Arguments}
    (known : command ≠ .help) (read : Arguments.read command.rules true words = .ok arguments)
    (silent : immediate? (some command) arguments = none) (alone : arguments.others = []) :
    runCommand surroundings errors verbose command words tree =
      match pathFault? arguments (configElsewhere surroundings command arguments) with
      | some fault => ⟨[], [], .failed (.access (.name fault)), tree⟩
      | none => transcriptOf errors verbose
          (command.perform surroundings.setting
            (Command.request arguments (configElsewhere surroundings command arguments))
            ⟨tree, []⟩) := by
  simp only [runCommand, read, silent]
  cases pathFault? arguments (configElsewhere surroundings command arguments) with
  | some fault => rfl
  | none => simp [alone, known]

/-- The options that the words of a request are read as. -/
def requestOptions (config base : Option Text) (dryRun : Bool) : List (OptionName × Text) :=
  config.toList.map (.config, ·) ++ base.toList.map (.cwd, ·) ++
    if dryRun then [(.dryRun, [])] else []

/-- The words behind the name of the command are read as the options of the request. -/
theorem read_generate : Arguments.read Command.generate.rules true
    (optionWords (text "--config") config ++ optionWords (text "--cwd") base ++
      if dryRun then [text "--dry-run"] else []) =
    .ok ⟨requestOptions config base dryRun, []⟩ := by
  cases config <;> cases base <;> cases dryRun <;> rfl

/-- Nothing is to be shown at once for such options. -/
theorem immediate?_requestOptions (command : Command) :
    immediate? (some command) ⟨requestOptions config base dryRun, []⟩ = none := by
  cases config <;> cases base <;> cases dryRun <;> rfl

/-- Artifacts are written or shown for the config and the base directory that the words
name, and for a config that the environment names where the words do not. -/
theorem run_generateWords :
    run surroundings (generateWords verbose dryRun config base) tree errors =
      let elsewhere := environmentConfig surroundings config
      match refusedName? (config.toList ++ base.toList ++ elsewhere.toList) with
      | some fault => ⟨[], [], .failed (.access (.name fault)), tree⟩
      | none => transcriptOf errors verbose
          (Command.generate.perform surroundings.setting
            (requestOf (config.or elsewhere) base dryRun) ⟨tree, []⟩) := by
  have read := read_generate dryRun config base
  have silent := immediate?_requestOptions dryRun config base .generate
  rw [generateWords, run_commandWords,
    runCommand_of_read surroundings errors verbose tree (by decide) read silent rfl]
  cases config <;> cases base <;> cases dryRun <;> rfl

/-- A config is checked that the words name, or the environment where they do not. -/
theorem run_validateWords :
    run surroundings (validateWords verbose config) tree errors =
      let elsewhere := environmentConfig surroundings config
      match refusedName? (config.toList ++ elsewhere.toList) with
      | some fault => ⟨[], [], .failed (.access (.name fault)), tree⟩
      | none => transcriptOf errors verbose
          (Command.validate.perform surroundings.setting
            (requestOf (config.or elsewhere) none false) ⟨tree, []⟩) := by
  have read : Arguments.read Command.validate.rules true
      (optionWords (text "--config") config) = .ok ⟨requestOptions config none false, []⟩ := by
    cases config <;> rfl
  have silent := immediate?_requestOptions false config none .validate
  rw [validateWords, run_commandWords,
    runCommand_of_read surroundings errors verbose tree (by decide) read silent rfl]
  cases config <;> rfl

end DesignTokens.CommandLine
