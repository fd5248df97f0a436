import CardCatalog.Text

/-!
# Invocations

What a command line asks for once it is understood, and why it may not be.
-/

namespace CardCatalog

/-- A word that changes how a command runs. -/
inductive Switch where
  | verbose
  | quiet
  | json
  | noColor
  | tightest
  | version
  | help
  deriving DecidableEq, Repr

/-- A shell for which completions can be written. -/
inductive Shell where
  | bash
  | zsh
  | fish
  | powershell
  deriving DecidableEq, Repr

/-- What is done with the settings. -/
inductive SettingsAction where
  | view
  | path
  | set (name value : Text)
  deriving DecidableEq, Repr

/-- What the program is asked to do. -/
inductive Command where
  | compile (tightest : Bool) (words : List Text)
  | parse (words : List Text)
  | tokens (words : List Text)
  | check (words : List Text)
  | fields
  | guide
  | settings (action : SettingsAction)
  | completions (shell : Shell)
  deriving DecidableEq, Repr

/-- The switches that every command understands. -/
structure Flags where
  verbose : Bool
  quiet : Bool
  json : Bool
  noColor : Bool
  deriving DecidableEq, Repr

/-- A command line that was understood. -/
structure Invocation where
  flags : Flags
  command : Option Command
  deriving DecidableEq, Repr

/-- What is wrong with a command line. -/
inductive UsageFault where
  | unknownSwitch (word : Text)
  | repeatedSwitch (word : Text)
  | switchWithValue (word : Text)
  | conflictingSwitches
  | unknownCommand (word : Text)
  | unexpectedWord (word : Text)
  | unknownShell (word : Text)
  | missingArgument
  deriving DecidableEq, Repr

/-- Why no command is run. -/
inductive Halt where
  | fault (fault : UsageFault)
  /-- The version is asked for, of the program or of one of its commands. -/
  | version (names : List Text)
  | help
  deriving DecidableEq, Repr

namespace UsageFault

/-- What a user is told. -/
def message : UsageFault → Text
  | unknownSwitch word => "unexpected option '" ++ word ++ "'"
  | repeatedSwitch word => "the option '" ++ word ++ "' is given twice"
  | switchWithValue word => "the option in '" ++ word ++ "' takes no value"
  | conflictingSwitches => "the options '--quiet' and '--verbose' exclude each other"
  | unknownCommand word => "there is no command '" ++ word ++ "'"
  | unexpectedWord word => "unexpected argument '" ++ word ++ "'"
  | unknownShell word => "there is no shell '" ++ word ++ "'"
  | missingArgument => "an argument is missing"

end UsageFault

end CardCatalog
