import CardCatalog.Session

/-!
# The program

Takes the command line, the environment and the file of settings from the system, and takes the steps
of the plan.
-/

namespace CardCatalog.Main

/-- What the environment says. -/
def environment : IO Environment := do
  let var (name : String) : IO (Option Text) := return (← IO.getEnv name).map String.toList
  return ⟨← var "CARDQ_CONFIG", ← var "XDG_CONFIG_HOME", ← var "HOME", (← var "NO_COLOR").isSome⟩

/-- The action comes to its end. -/
def succeeds (action : IO Unit) : IO Bool := do
  match ← action.toBaseIO with
  | .ok _ => return true
  | .error _ => return false

/-- What is at a path. Something is there if it can be opened. -/
def look (path : Text) : IO Found := do
  let path := String.ofList path
  if ← succeeds (discard (IO.FS.Handle.mk path .read)) then
    match ← (IO.FS.readFile path).toBaseIO with
    | .ok content => return .content content.toList
    | .error _ => return .unreadable
  else return .missing

/-- Writes the file of settings, after the folders on the way to it. -/
def save (path content : Text) : IO (Except Failure Unit) := do
  let folder := String.ofList (Path.parent path)
  if folder != "" then
    unless ← succeeds (IO.FS.createDirAll folder) do return .error .settingsFolderNotMade
  if ← succeeds (IO.FS.writeFile (String.ofList path) (String.ofList content)) then return .ok ()
  else return .error .unwritableSettings

/-- Writes a report to the two outputs. -/
def tell (report : Report) : IO Unit := do
  IO.eprint (String.ofList report.err)
  IO.print (String.ofList report.out)

/-- Takes the steps one after the other, up to the first that fails. -/
def takeAll : List Plan.Step → IO (Except Failure Unit)
  | [] => return .ok ()
  | .save path content :: rest => do
    match ← save path content with
    | .error failure => return .error failure
    | .ok () => takeAll rest
  | .tell report :: rest => do
    tell report
    takeAll rest

/-- Runs an invocation. -/
def run (invocation : Invocation) : IO (Except Failure Unit) := do
  let env ← environment
  let found ← match env.settingsPath? with
    | some path => look path
    | none => pure .missing
  match Plan.ofInvocation env found invocation with
  | .error failure => return .error failure
  | .ok plan => takeAll plan.steps

/-- Tells what comes of a command line, and gives its exit code. -/
def finish (outcome : Session.Outcome) : IO Nat := do
  tell outcome.printed
  return outcome.exitCode

/-- Runs a command line, and gives its exit code. -/
def runLine (words : List Text) : IO Nat := do
  match CommandLine.read words with
  | .error halt => finish (.ofHalt halt)
  | .ok invocation =>
    match ← run invocation with
    | .ok () => return 0
    | .error failure => finish (.failed invocation.flags failure)

end CardCatalog.Main

open CardCatalog in
/-- Runs a command line and ends with its exit code. -/
def main (args : List String) : IO UInt32 := do
  return (← Main.runLine (args.map String.toList)).toUInt32
