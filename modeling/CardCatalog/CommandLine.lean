import CardCatalog.Invocation

/-!
# The command line

    [switches] [command [switches] [arguments]]

Switches stand before or behind the name of a command. Each command is a level of its own, at which
a switch is given at most once, and `--quiet` not together with `--verbose`. Switches of one letter
can be joined behind one dash. Two dashes alone end the switches of a level.

The words of an expression begin with the first word that is no switch, and from there on every word
belongs to them.

* `CommandLine.read` reads the words of a command line.
-/

namespace CardCatalog

namespace CommandLine

/-! ## Switches -/

/-- The switches of one letter. -/
def letters : List (Char × Switch) :=
  [('v', .verbose), ('q', .quiet), ('h', .help), ('V', .version)]

/-- The switches with a name. -/
def names : List (Text × Switch) :=
  [("verbose", .verbose), ("quiet", .quiet), ("json", .json), ("no-color", .noColor),
   ("tightest", .tightest), ("help", .help), ("version", .version)]

/-- A level of the command line: the program or one of its commands. -/
structure Level where
  /-- The names that lead to the level. -/
  path : List Text
  /-- Repeated bounds can be merged into the tightest range. -/
  merges : Bool

/-- The switch with a name, if the level has it. -/
def Level.ofName? (level : Level) (name : Text) : Option Switch :=
  match names.lookup name with
  | some .tightest => if level.merges then some .tightest else none
  | found => found

/-- The word ends the switches of its level. -/
def isEnd (word : Text) : Bool := word = ['-', '-']

/-- The word has the form of one or more switches. -/
def looksLikeSwitch : Text → Bool
  | '-' :: _ :: _ => true
  | _ => false

/-- The name in a word behind two dashes, up to an equals sign. -/
def switchName (word : Text) : Text := word.takeWhile (· != '=')

/-- All of the word is switches that the level has. -/
def Level.knows (level : Level) : Text → Bool
  | '-' :: '-' :: word => (level.ofName? (switchName word)).isSome
  | '-' :: c :: word => (c :: word).all fun letter => (letters.lookup letter).isSome
  | _ => false

/-- The switches given so far together with a further one. Help and version need no more. -/
def Level.give (level : Level) (given : List Switch) (switch : Switch) (word : Text) :
    Except Halt (List Switch) :=
  match switch with
  | .help => .error .help
  | .version => .error (.version level.path)
  | _ => if switch ∈ given then .error (.fault (.repeatedSwitch word)) else .ok (switch :: given)

/-- The switches given so far together with those of a row of letters. -/
def Level.giveLetters (level : Level) (word : Text) (given : List Switch) :
    Text → Except Halt (List Switch)
  | [] => .ok given
  | letter :: rest =>
    match letters.lookup letter with
    | none => .error (.fault (.unknownSwitch word))
    | some switch => do giveLetters level word (← level.give given switch word) rest

/-- The switches given so far together with those of a word. -/
def Level.giveWord (level : Level) (given : List Switch) (word : Text) :
    Except Halt (List Switch) :=
  match word with
  | '-' :: '-' :: body =>
    match level.ofName? (switchName body) with
    | none => .error (.fault (.unknownSwitch word))
    | some switch =>
      if body.contains '=' then .error (.fault (.switchWithValue word))
      else level.give given switch word
  | _ => level.giveLetters word given (word.drop 1)

/-- Quiet and verbose exclude each other at one level. -/
def checkConflict (given : List Switch) : Except Halt Unit :=
  if .quiet ∈ given && .verbose ∈ given then .error (.fault .conflictingSwitches) else .ok ()

/-- The switches that every command understands, from those given at any level. -/
def flagsOf (given : List Switch) : Flags :=
  ⟨.verbose ∈ given, .quiet ∈ given, .json ∈ given, .noColor ∈ given⟩

/-! ## Arguments -/

/-- The end of a level that has no other level below it. -/
def close {α : Type} (given : List Switch) (arguments : List α) :
    Except Halt (List Switch × List α) := do
  checkConflict given
  return (given, arguments)

/-- Switches, then the words of an expression. -/
def Level.readExpression (level : Level) (given : List Switch) :
    List Text → Except Halt (List Switch × List Text)
  | [] => close given []
  | word :: rest =>
    if isEnd word then close given rest
    else if level.knows word then do
      readExpression level (← level.giveWord given word) rest
    else close given (word :: rest)

/-- Exactly so many words are left to be arguments. -/
def exactly (count : Nat) (words : List Text) : Except Halt (List Text) :=
  match words.drop count with
  | word :: _ => .error (.fault (.unexpectedWord word))
  | [] => if words.length = count then .ok words else .error (.fault .missingArgument)

/-- Switches between exactly so many arguments. Every argument is read before the words behind it. -/
def Level.readArguments {α : Type} (level : Level) (read : Text → Except Halt α)
    (given : List Switch) (count : Nat) : List Text → Except Halt (List Switch × List α)
  | [] => do close given (← (← exactly count []).mapM read)
  | word :: rest =>
    if isEnd word then do close given (← (← exactly count rest).mapM read)
    else if looksLikeSwitch word then do
      readArguments level read (← level.giveWord given word) count rest
    else
      match count with
      | 0 => .error (.fault (.unexpectedWord word))
      | count + 1 => do
        let argument ← read word
        let (given, arguments) ← readArguments level read given count rest
        return (given, argument :: arguments)

/-- Switches without arguments. -/
def Level.readSwitches (level : Level) (words : List Text) : Except Halt (List Switch) := do
  return (← level.readArguments Except.ok [] 0 words).1

/-- Switches, then the name of a command and the words behind it. -/
def Level.readName (level : Level) (given : List Switch) :
    List Text → Except Halt (List Switch × Option (Text × List Text))
  | [] => .ok (given, none)
  | word :: rest =>
    if isEnd word then do
      let _ ← exactly 0 rest
      return (given, none)
    else if looksLikeSwitch word then do
      readName level (← level.giveWord given word) rest
    else .ok (given, some (word, rest))

/-! ## Commands -/

/-- The shells by name. -/
def shells : List (Text × Shell) :=
  [("bash", .bash), ("zsh", .zsh), ("fish", .fish), ("powershell", .powershell)]

/-- The shell with this name. -/
def readShell (word : Text) : Except Halt Shell :=
  match shells.lookup word with
  | some shell => .ok shell
  | none => .error (.fault (.unknownShell word))

/-- The commands on expressions by name. -/
def expressionCommands : List (Text × (Text × (Bool → List Text → Command))) :=
  let compile := fun tightest words => Command.compile tightest words
  let parse := fun _ words => Command.parse words
  [("compile", "compile", compile), ("c", "compile", compile), ("parse", "parse", parse),
   ("p", "parse", parse), ("tokens", "tokens", fun _ words => .tokens words),
   ("check", "check", fun _ words => .check words)]

/-- The commands without arguments by name. -/
def plainCommands : List (Text × Command) := [("fields", .fields), ("syntax", .guide)]

/-- The names of what is done with the settings. -/
def actionNames : List Text := ["show", "set", "path", "help"]

/-- The names of all commands. -/
def commandNames : List Text :=
  expressionCommands.map (·.1) ++ plainCommands.map (·.1) ++
    ["config".toList, "completions".toList, "help".toList]

/-- Help on one of the commands with the given names, or on all of them. -/
def helpOn (names : List Text) : List Text → Halt
  | [] => .help
  | [name] => if names.contains name then .help else .fault (.unknownCommand name)
  | _ :: word :: _ => .fault (.unknownCommand word)

/-- Help on the command to which the words lead. -/
def readHelp : List Text → Halt
  | name :: words =>
    if name = "config".toList then helpOn actionNames words else helpOn commandNames (name :: words)
  | [] => .help

/-- Reads what is to be done with the settings. -/
def readAction (path : List Text) (name : Text) (words : List Text) :
    Except Halt (List Switch × SettingsAction) :=
  let level : Level := ⟨path ++ [name], false⟩
  if name = "show".toList then do
    return (← level.readSwitches words, .view)
  else if name = "path".toList then do
    return (← level.readSwitches words, .path)
  else if name = "set".toList then do
    match ← level.readArguments Except.ok [] 2 words with
    | (given, [key, value]) => return (given, .set key value)
    | _ => .error (.fault .missingArgument)
  else if name = "help".toList then .error (helpOn actionNames words)
  else .error (.fault (.unknownCommand name))

/-- Reads the command on the settings; without a name behind it they are shown. -/
def readSettings (path words : List Text) : Except Halt (List Switch × Command) := do
  let level : Level := ⟨path ++ ["config".toList], false⟩
  let (given, next) ← level.readName [] words
  match next with
  | none =>
    checkConflict given
    return (given, .settings .view)
  | some (name, rest) =>
    let (below, action) ← readAction level.path name rest
    checkConflict given
    return (below ++ given, .settings action)

/-- Reads a command by its name and the words behind it. -/
def readCommand (path : List Text) (name : Text) (words : List Text) :
    Except Halt (List Switch × Command) :=
  match expressionCommands.lookup name with
  | some (name, command) => do
    let level : Level := ⟨path ++ [name], name = "compile".toList⟩
    let (given, words) ← level.readExpression [] words
    return (given, command (.tightest ∈ given) words)
  | none =>
    match plainCommands.lookup name with
    | some command => do
      let level : Level := ⟨path ++ [name], false⟩
      return (← level.readSwitches words, command)
    | none =>
      if name = "config".toList then readSettings path words
      else if name = "completions".toList then do
        let level : Level := ⟨path ++ [name], false⟩
        match ← level.readArguments readShell [] 1 words with
        | (given, [shell]) => return (given, .completions shell)
        | _ => .error (.fault .missingArgument)
      else if name = "help".toList then .error (readHelp words)
      else .error (.fault (.unknownCommand name))

/-- The name of the program. -/
def program : Text := "cardq"

/-- Reads the words of a command line, without the name of the program. -/
def read (words : List Text) : Except Halt Invocation := do
  let (given, next) ← Level.readName ⟨[program], false⟩ [] words
  match next with
  | none =>
    checkConflict given
    return ⟨flagsOf given, none⟩
  | some (name, rest) =>
    let (below, command) ← readCommand [program] name rest
    checkConflict given
    return ⟨flagsOf (below ++ given), some command⟩

end CommandLine

end CardCatalog
