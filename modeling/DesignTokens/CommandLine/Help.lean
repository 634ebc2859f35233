import DesignTokens.CommandLine.Command

/-!
# Help

The help text of the program and of each command, and the wording of usage errors.
Both are put together from the option rules, so that no option can be left out.
-/

namespace DesignTokens

namespace OptionName

/-- What an option is for. -/
def purpose : OptionName -> Text
  | help => text "Show this message and exit"
  | version => text "Show version and exit"
  | verbose => text "Log each generation step to stderr"
  | config => text "Path to config file (default: ./stb.config.json)"
  | dryRun => text "Output to stdout instead of writing files"
  | cwd => text "Base directory for output paths (default: current directory)"
  | source => text "Directory scanned for component stylesheets (default: src)"
  | output => text "Build output directory (default: dist)"

end OptionName

namespace OptionRule

/-- The spellings of an option, its value included. -/
def spellings (rule : OptionRule) : Text :=
  rule.long ++ (rule.short.elim [] fun letter => text ", -" ++ [letter]) ++
    (if rule.takesValue then text " PATH" else [])

/-- The line of an option in a help text. -/
def helpLine (rule : OptionRule) : Text :=
  text "  " ++ rule.spellings ++ text "  " ++ rule.name.purpose ++ text "\n"

end OptionRule

namespace Command

/-- What a command is for. -/
def purpose : Command -> Text
  | generate => text "Read the config and generate all output files."
  | validate => text "Validate the config and show a token summary."
  | bundle =>
      text "Copy component stylesheets to dist/css and bundle them into dist/styles.css."
  | help => text "Show the help message of the program."

/-- The line of a command in the help text of the program. -/
def helpLine (command : Command) : Text :=
  text "  " ++ command.name ++ text "  " ++ command.purpose ++ text "\n"

/-- The help text of a command. -/
def helpText (command : Command) : Text :=
  text "Usage: " ++ programName ++ text " " ++ command.name ++ text " [OPTIONS]\n\n" ++
    command.purpose ++ text "\n\nOptions:\n" ++ command.rules.flatMap OptionRule.helpLine

end Command

namespace CommandLine

/-- The help text of the program. -/
def helpText : Text :=
  text "Usage: " ++ programName ++ text " [OPTIONS] COMMAND [ARGS]...\n\n" ++
    text "Generate WordPress assets from a design token config.\n\nOptions:\n" ++
    Command.commonRules.flatMap OptionRule.helpLine ++ text "\nCommands:\n" ++
    Command.all.flatMap Command.helpLine

end CommandLine

/-- The long spelling of an option. -/
def OptionName.longSpelling (name : OptionName) : Text :=
  match (Command.commonRules ++ Command.all.flatMap Command.rules).find? fun rule =>
    rule.name = name with
  | some rule => rule.long
  | none => []

/-- The wording of a usage error. -/
def UsageFault.message : UsageFault -> Text
  | unknownOption spelling => text "No such option: " ++ spelling
  | valueMissing name => text "Option " ++ name.longSpelling ++ text " requires an argument."
  | valueRefused name => text "Option " ++ name.longSpelling ++ text " does not take a value."
  | extraArguments arguments =>
      text "Got unexpected extra arguments: " ++ List.intercalate (text " ") arguments

end DesignTokens
