import CardCatalog.CommandLine
import CardCatalog.Plan.Command

/-!
# Sessions

Command lines run one after another in a folder of files, each in the folder that the one before it
left.

* `Session.perform` plans an invocation and takes the steps of the plan, up to the first that fails.
* `Session.run` is what is left of that: the folder, and what was printed or why it failed.
* `Session.runLine` runs a command line, understood or not, and `Session.output` is what it prints.
* `Session.runAll` runs a session.
-/

namespace CardCatalog.Session

/-- What is found at the path of the settings. -/
def lookForSettings (env : Environment) (folder : Folder) : Found :=
  match env.settingsPath? with
  | some path => folder.look path
  | none => .missing

/-- Writes the file of settings, after the folders on the way to it. The folders stay if the file
cannot be written. -/
def save (folder : Folder) (path content : Text) : Folder × Except Failure Unit :=
  let (folder, made) := folder.makePath (Path.parent path)
  if made then
    match folder.write? path content with
    | some folder => (folder, .ok ())
    | none => (folder, .error .unwritableSettings)
  else (folder, .error .settingsFolderNotMade)

/-- How far a run has come. -/
structure Progress where
  /-- The folder as it is by now. -/
  folder : Folder
  /-- What has been printed. -/
  printed : Report

namespace Progress

/-- Takes one step. -/
def take (progress : Progress) : Plan.Step → Progress × Except Failure Unit
  | .save path content =>
    let (folder, saved) := save progress.folder path content
    ({ progress with folder := folder }, saved)
  | .tell report => ({ progress with printed := progress.printed ++ report }, .ok ())

/-- Takes the steps one after the other. The first that fails is the last; what was printed before
it has been printed. -/
def takeAll (progress : Progress) : List Plan.Step → Progress × Except Failure Unit
  | [] => (progress, .ok ())
  | step :: rest =>
    match progress.take step with
    | (progress, .error failure) => (progress, .error failure)
    | (progress, .ok ()) => progress.takeAll rest

end Progress

/-- Plans an invocation and takes the steps of the plan. -/
def perform (env : Environment) (folder : Folder) (invocation : Invocation) :
    Progress × Except Failure Unit :=
  let start : Progress := ⟨folder, .nothing⟩
  match Plan.ofInvocation env (lookForSettings env folder) invocation with
  | .error failure => (start, .error failure)
  | .ok plan => start.takeAll plan.steps

/-- Runs an invocation in a folder: the folder after it, and what it printed or why it failed. -/
def run (env : Environment) (folder : Folder) (invocation : Invocation) :
    Folder × Except Failure Report :=
  let (progress, done) := perform env folder invocation
  (progress.folder, done.map fun _ => progress.printed)

/-- What comes of a command line. -/
inductive Outcome where
  /-- The command line was not understood. -/
  | refused (fault : UsageFault)
  | failed (flags : Flags) (failure : Failure)
  | done (report : Report)
  deriving DecidableEq, Repr

/-- The exit code of an outcome. -/
def Outcome.exitCode : Outcome → Nat
  | refused _ => 2
  | failed _ failure => failure.kind.exitCode
  | done _ => 0

/-- A failure as JSON. -/
def failureJson (failure : Failure) : Json :=
  .object [("error", .object [("code", .text failure.code), ("message", .text failure.message)])]

/-- What is printed about a failure. -/
def failureText (flags : Flags) (failure : Failure) : Text :=
  if flags.json then (failureJson failure).pretty ++ ['\n']
  else "Error: " ++ failure.message ++ ['\n']

/-- What is printed of an outcome. A failure is told on the second output. -/
def Outcome.printed : Outcome → Report
  | refused fault => ⟨[], "error: " ++ fault.message ++ ['\n']⟩
  | failed flags failure => ⟨[], failureText flags failure⟩
  | done report => report

/-- The version of the program, or of the command to which the names lead. -/
def versionText (names : List Text) : Text := List.intercalate ['-'] names ++ " 0.1.0\n"

/-- How the program is used. -/
def helpText : Text :=
  Text.ofLines
    ["Usage: cardq [OPTIONS] [COMMAND]", [],
     "Commands: " ++ List.intercalate ", ".toList Plan.commandNames,
     "Options: -v/--verbose, -q/--quiet, --json, --no-color, -h/--help, -V/--version"]

/-- The outcome of a command line for which no command is run. -/
def Outcome.ofHalt : Halt → Outcome
  | .fault fault => .refused fault
  | .version names => .done ⟨versionText names, []⟩
  | .help => .done ⟨helpText, []⟩

/-- The outcome of a run with the given flags. -/
def Outcome.ofRun (flags : Flags) : Except Failure Report → Outcome
  | .ok report => .done report
  | .error failure => .failed flags failure

/-- Runs a command line in a folder. -/
def runLine (env : Environment) (folder : Folder) (words : List Text) : Folder × Outcome :=
  match CommandLine.read words with
  | .error halt => (folder, .ofHalt halt)
  | .ok invocation =>
    let (after, result) := run env folder invocation
    (after, .ofRun invocation.flags result)

/-- What a command line prints in all. A failure is told behind what was printed before it. -/
def output (env : Environment) (folder : Folder) (words : List Text) : Report :=
  match CommandLine.read words with
  | .error halt => (Outcome.ofHalt halt).printed
  | .ok invocation =>
    match perform env folder invocation with
    | (progress, .ok ()) => progress.printed
    | (progress, .error failure) =>
      progress.printed ++ (Outcome.failed invocation.flags failure).printed

/-- Runs command lines one after another; the answer has the folder after each of them. -/
def runAll (env : Environment) (folder : Folder) : List (List Text) → List (Folder × Outcome)
  | [] => []
  | words :: rest =>
    let after := runLine env folder words
    after :: runAll env after.1 rest

end CardCatalog.Session
