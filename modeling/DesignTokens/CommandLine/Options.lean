import DesignTokens.Text

/-!
# Options of a command line

Arguments are read from left to right. A long option takes its value from behind
an equals sign or from the next argument, a short one from the letters behind it or
from the next argument, and short options without values can share one argument. A
value may look like an option. Two dashes end the options.
-/

namespace DesignTokens

/-- The options that the commands know. -/
inductive OptionName where
  | help
  | version
  | verbose
  | config
  | dryRun
  | cwd
  | source
  | output
  deriving DecidableEq, Repr

/-- How an option is spelled, and whether it takes a value. -/
structure OptionRule where
  name : OptionName
  long : Text
  short : Option CodePoint
  takesValue : Bool
  deriving DecidableEq, Repr

/-- Why arguments cannot be read. -/
inductive UsageFault where
  | unknownOption (spelling : Text)
  | valueMissing (name : OptionName)
  | valueRefused (name : OptionName)
  | extraArguments (arguments : List Text)
  deriving DecidableEq, Repr

/-- The options in the order in which they were given, flags with an empty value,
and the arguments that are no options. -/
structure Arguments where
  given : List (OptionName × Text)
  others : List Text
  deriving DecidableEq, Repr

namespace Arguments

/-- The same arguments after another option. -/
def withOption (name : OptionName) (value : Text) (arguments : Arguments) : Arguments :=
  { arguments with given := (name, value) :: arguments.given }

/-- The same arguments after further options. -/
def withOptions (options : List (OptionName × Text)) (arguments : Arguments) : Arguments :=
  { arguments with given := options ++ arguments.given }

/-- The same arguments after another one that is no option. -/
def withOther (argument : Text) (arguments : Arguments) : Arguments :=
  { arguments with others := argument :: arguments.others }

/-- What ends the options. -/
def endMark : Text := text "--"

/-- Whether an argument is to be read as options: it begins with a dash and is more
than that dash. -/
def isOption (argument : Text) : Bool :=
  argument.head? == some (CodePoint.ofChar '-') && 1 < argument.length

/-- The part of an argument before its first equals sign, and the part behind it. -/
def splitValue (argument : Text) : Text × Option Text :=
  let mark : CodePoint := '='
  match argument.dropWhile (fun point => point != mark) with
  | [] => (argument, none)
  | _ :: value => (argument.takeWhile (fun point => point != mark), some value)

/-- What one argument gives: options, and possibly one whose value is the argument
that follows. -/
structure Reading where
  given : List (OptionName × Text)
  awaiting : Option OptionName
  deriving DecidableEq, Repr

/-- Reads an argument that spells out a long option. -/
def readLong (rule : OptionRule) (value : Option Text) : Except UsageFault Reading :=
  match rule.takesValue, value with
  | true, some value => .ok ⟨[(rule.name, value)], none⟩
  | true, none => .ok ⟨[], some rule.name⟩
  | false, some _ => .error (.valueRefused rule.name)
  | false, none => .ok ⟨[(rule.name, [])], none⟩

/-- Reads the letters of an argument as short options. -/
def readShort (rules : List OptionRule) : Text -> Except UsageFault Reading
  | [] => .ok ⟨[], none⟩
  | letter :: rest =>
      match rules.find? fun rule => rule.short == some letter with
      | none => .error (.unknownOption ['-', letter])
      | some rule =>
          if rule.takesValue then
            if rest.isEmpty then .ok ⟨[], some rule.name⟩ else .ok ⟨[(rule.name, rest)], none⟩
          else
            (readShort rules rest).map fun reading =>
              ⟨(rule.name, []) :: reading.given, reading.awaiting⟩

/-- Reads an argument as options. One that begins with two dashes is not read as
letters. -/
def readOption (rules : List OptionRule) (argument : Text) : Except UsageFault Reading :=
  let (spelling, value) := splitValue argument
  match rules.find? fun rule => rule.long == spelling with
  | some rule => readLong rule value
  | none =>
      if endMark.isPrefixOf argument then .error (.unknownOption spelling)
      else readShort rules (argument.drop 1)

/-- Reads arguments, the first of which may be the value that an option awaits. An
argument that is no option is passed over if options may follow it, and else ends
the options. -/
def readFrom (rules : List OptionRule) (interspersed : Bool) :
    Option OptionName -> List Text -> Except UsageFault Arguments
  | none, [] => .ok ⟨[], []⟩
  | some name, [] => .error (.valueMissing name)
  | some name, value :: rest =>
      (readFrom rules interspersed none rest).map (withOption name value)
  | none, argument :: rest =>
      if argument = endMark then .ok ⟨[], rest⟩
      else if isOption argument then do
        let reading <- readOption rules argument
        let arguments <- readFrom rules interspersed reading.awaiting rest
        .ok (arguments.withOptions reading.given)
      else if interspersed then (readFrom rules interspersed none rest).map (withOther argument)
      else .ok ⟨[], argument :: rest⟩

/-- Reads arguments. -/
def read (rules : List OptionRule) (interspersed : Bool) (arguments : List Text) :
    Except UsageFault Arguments :=
  readFrom rules interspersed none arguments

/-- The words that are left once the options in front of them were read, the last
of which may be one that cannot be read. -/
def unread (rules : List OptionRule) : Option OptionName -> List Text -> List Text
  | _, [] => []
  | some _, _ :: rest => unread rules none rest
  | none, argument :: rest =>
      if argument = endMark then rest
      else if isOption argument then
        match readOption rules argument with
        | .ok reading => unread rules reading.awaiting rest
        | .error _ => rest
      else argument :: rest

/-- Whether an option was given. -/
def has (arguments : Arguments) (name : OptionName) : Bool :=
  arguments.given.any fun option => option.1 = name

/-- The value of an option: where it was given more than once, the last one counts. -/
def value? (arguments : Arguments) (name : OptionName) : Option Text :=
  (arguments.given.reverse.find? fun option => option.1 = name).map Prod.snd

/-- The options that were given, each once, in the order of their first mention. -/
def names (arguments : Arguments) : List OptionName :=
  (arguments.given.map Prod.fst).eraseDups

end Arguments

end DesignTokens
