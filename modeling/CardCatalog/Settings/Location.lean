import CardCatalog.Path

/-!
# Where the settings are kept

The environment names the file of settings, or a folder in which it lies.
-/

namespace CardCatalog

/-- What the environment of a command says. -/
structure Environment where
  /-- The file of settings. -/
  settingsFile : Option Text
  /-- The folder for the settings of all programs. -/
  configHome : Option Text
  /-- The user's own folder. -/
  home : Option Text
  /-- The environment asks for output without colors. -/
  noColor : Bool
  deriving DecidableEq, Repr

/-- The folder of this program's settings. An empty home does not count, an empty folder for
settings does. -/
def Environment.settingsFolder? (env : Environment) : Option Text :=
  match env.configHome with
  | some folder => some (Path.join folder "cardq")
  | none =>
    match env.home with
    | none | some [] => none
    | some home => some (Path.join (Path.join home ".config") "cardq")

/-- The path of the file of settings. -/
def Environment.settingsPath? (env : Environment) : Option Text :=
  match env.settingsFile with
  | some path => some path
  | none => env.settingsFolder?.map (Path.join · "config.toml")

end CardCatalog
