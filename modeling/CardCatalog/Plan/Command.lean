import CardCatalog.Plan.Preferences
import CardCatalog.Plan.Search

/-!
# Plans for commands

* `Plan.ofInvocation` plans an invocation, given what is found at the path of the settings.

Searches are done as the user prefers and so fail if the settings cannot be read; the other commands
go without. Whether a search fails never depends on its expression.
-/

namespace CardCatalog.Plan

/-- Plans a search in the manner that the user prefers. -/
def ofSearch (env : Environment) (found : Found) (manner : Manner) (report : Manner → Report) :
    Except Failure Plan := do
  let _ ← settingsPath env
  let settings ← loadSettings found
  return .print (report (← manner.withSettings settings))

/-- What is printed if nothing is asked for. -/
def greeting : Text :=
  Text.ofLines ["cardq - card search expression compiler", "Use --help for usage information"]

/-- The names of the commands. -/
def commandNames : List Text :=
  ["compile", "parse", "tokens", "check", "fields", "syntax", "config", "completions"]

/-- A line for the start file of a shell, by which it completes the names of commands. -/
def completions (shell : Shell) : Text :=
  let names := List.intercalate [' '] commandNames
  let quoted := commandNames.map fun name => '\x27' :: name ++ ['\x27']
  Text.ofLines
    [match shell with
     | .bash => "complete -W \"" ++ names ++ "\" cardq"
     | .zsh => "compctl -k \"(" ++ names ++ ")\" cardq"
     | .fish => "complete -c cardq -f -a \"" ++ names ++ ['"']
     | .powershell =>
       "Register-ArgumentCompleter -Native -CommandName cardq -ScriptBlock \x7b " ++
         List.intercalate ", ".toList quoted ++ [' ', '\x7d']]

/-- Plans an invocation, given what is found at the path of the settings. -/
def ofInvocation (env : Environment) (found : Found) (invocation : Invocation) :
    Except Failure Plan :=
  let manner := Manner.ofFlags env invocation.flags
  let search := ofSearch env found manner
  match invocation.command with
  | none => .ok (.print ⟨if manner.quiet then [] else greeting, []⟩)
  | some (.settings action) => ofSettingsAction env found manner action
  | some (.completions shell) => .ok (.print ⟨completions shell, []⟩)
  | some (.compile tightest words) => search (Report.compile tightest words)
  | some (.parse words) => search (Report.parse words)
  | some (.tokens words) => search (Report.tokens words)
  | some (.check words) => search (Report.check words)
  | some .fields => search Report.fields
  | some .guide => search Report.guide

end CardCatalog.Plan
