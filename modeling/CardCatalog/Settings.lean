import CardCatalog.Failure
import CardCatalog.Json
import CardCatalog.Toml.Quoted.Form

/-!
# Settings

What a user prefers, kept in a TOML file: whether to color the output, whether to write JSON, and
how repeated bounds are merged. Names that are not known are passed over when the file is read, and
are gone once it is written.

* `Settings.read` and `Settings.write` are the two ways between settings and file.
* `Settings.migrate` takes settings of any version for those of the current one.
* `Settings.set` changes one setting by its name.
-/

namespace CardCatalog

/-- What a user prefers; a missing setting leaves the program's own choice. The name of the bound
policy is kept as it stands in the file. -/
structure Settings where
  /-- The version of the file format. -/
  version : Nat
  color : Option Bool
  json : Option Bool
  bounds : Option Text
  deriving DecidableEq, Repr

namespace Settings

/-- The version of the file format that is in use. -/
def currentVersion : Nat := 1

/-- No preferences. -/
def unset : Settings := ⟨currentVersion, none, none, none⟩

/-! ## The file -/

/-- The entries of a section. It is a table, or a list of at least as many values as it has settings,
in the order of their names. A missing section has no entries, and neither has a date or time. -/
def section? (entries : Toml.Entries) (name : Text) (settings : List Text) :
    Except Failure Toml.Entries :=
  match entries.lookup name with
  | none | some (.time _) => .ok []
  | some (.table _ inner) => .ok inner
  | some (.list items) =>
    if settings.length ≤ items.length then .ok (settings.zip items)
    else .error (.misfitSetting name)
  | some _ => .error (.misfitSetting name)

/-- A truth value in a section. -/
def bool? (entries : Toml.Entries) (name : Text) : Except Failure (Option Bool) :=
  match entries.lookup name with
  | none => .ok none
  | some (.bool value) => .ok (some value)
  | some _ => .error (.misfitSetting name)

/-- A text in a section. -/
def text? (entries : Toml.Entries) (name : Text) : Except Failure (Option Text) :=
  match entries.lookup name with
  | none => .ok none
  | some (.text value) => .ok (some value)
  | some _ => .error (.misfitSetting name)

/-- The version, a natural number of 32 bits. A document without one is of the current version. -/
def version? (entries : Toml.Entries) : Except Failure Nat :=
  match entries.lookup "version".toList with
  | none => .ok currentVersion
  | some (.int n) =>
    if 0 ≤ n && n < 4294967296 then .ok n.toNat else .error (.misfitSetting "version")
  | some _ => .error (.misfitSetting "version")

/-- The settings that a document holds. -/
def ofEntries (entries : Toml.Entries) : Except Failure Settings := do
  let version ← version? entries
  let output ← section? entries "output" ["color", "json"]
  let search ← section? entries "search" ["numeric_bounds"]
  let color ← bool? output "color"
  let json ← bool? output "json"
  let bounds ← text? search "numeric_bounds"
  return ⟨version, color, json, bounds⟩

/-- The settings in the text of a file. -/
def read (document : Text) : Except Failure Settings :=
  match Toml.read document with
  | .ok entries => ofEntries entries
  | .error fault => .error (.malformedSettings fault)

/-- The settings of a file of any version, as those of the current one. -/
def migrate (settings : Settings) : Settings := { settings with version := currentVersion }

/-- The word for a truth value. -/
def boolWord (value : Bool) : Text := if value then "true".toList else "false"

/-- A line that sets a name, if there is something to set. -/
def line (name : Text) (value : Option Text) : Text :=
  match value with
  | some value => name ++ " = " ++ value ++ ['\n']
  | none => []

/-- The text of the file for the settings. -/
def write (settings : Settings) : Text :=
  line "version" (some (Text.ofNat settings.version)) ++ "\n[output]\n" ++
    line "color" (settings.color.map boolWord) ++ line "json" (settings.json.map boolWord) ++
    "\n[search]\n" ++ line "numeric_bounds" (settings.bounds.map Toml.Quoted.write)

/-! ## Single settings -/

/-- The words for truth values, in small letters. -/
def boolWords : List (Text × Bool) :=
  [("true", true), ("yes", true), ("1", true), ("on", true), ("false", false), ("no", false),
   ("0", false), ("off", false)]

/-- The truth value that a word stands for; case does not matter. -/
def readBool (written : Text) : Except Failure Bool :=
  match boolWords.lookup (Text.lower written) with
  | some value => .ok value
  | none => .error (.notABoolean written)

/-- The bound policy with this name. -/
def readPolicy (written : Text) : Except Failure BoundPolicy :=
  match BoundPolicy.ofName written with
  | .ok policy => .ok policy
  | .error unknown => .error (.unknownPolicy unknown)

/-- The settings with one of them changed. -/
def set (settings : Settings) (name value : Text) : Except Failure Settings :=
  if name = "output.color".toList then do
    return { settings with color := some (← readBool value) }
  else if name = "output.json".toList then do
    return { settings with json := some (← readBool value) }
  else if name = "search.numeric_bounds".toList then do
    return { settings with bounds := some (← readPolicy value).name }
  else .error (.unknownSetting name)

/-! ## As JSON -/

/-- The members of an object that are there. -/
def present (members : List (Text × Option Json)) : List (Text × Json) :=
  members.filterMap fun member => member.2.map (member.1, ·)

/-- The settings as JSON. -/
def toJson (settings : Settings) : Json :=
  .object
    [("output", .object (present
      [("color", settings.color.map .bool), ("json", settings.json.map .bool)])),
     ("search", .object (present [("numeric_bounds", settings.bounds.map .text)])),
     ("version", .int settings.version)]

end Settings

end CardCatalog
