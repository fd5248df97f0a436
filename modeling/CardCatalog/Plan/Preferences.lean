import CardCatalog.Folder
import CardCatalog.Plan
import CardCatalog.Style

/-!
# Commands on the settings

Showing the settings, showing where they are kept, and changing one of them. None of these looks at
what the user prefers, so that the path is told and the settings can be mended however they stand.
-/

namespace CardCatalog.Plan

/-- The settings at what was found at their path; a missing file sets nothing. -/
def loadSettings : Found → Except Failure Settings
  | .missing => .ok Settings.unset
  | .unreadable => .error .unreadableSettings
  | .content document => return (← Settings.read document).migrate

/-- The path of the settings. -/
def settingsPath (env : Environment) : Except Failure Text :=
  match env.settingsPath? with
  | some path => .ok path
  | none => .error .noSettingsFolder

/-- There is something at the path. -/
def isPresent (found : Found) : Bool := found != Found.missing

/-- A line of the settings shown, if there is something to show. -/
def settingLine (name : Text) (value : Option Text) : List Text :=
  match value with
  | some value => ["  " ++ name ++ ": " ++ value]
  | none => []

/-- The settings for the eye. -/
def settingsTable (colors : Bool) (path : Text) (present : Bool) (settings : Settings) : Text :=
  let opening : List Text :=
    [Style.boldGreen.paint colors "Configuration", [], "File: " ++ path,
      "Exists: " ++ Settings.boolWord present, []]
  let output : List Text :=
    "[output]".toList :: settingLine "color" (settings.color.map Settings.boolWord) ++
      settingLine "json" (settings.json.map Settings.boolWord)
  let search : List Text := "[search]".toList :: settingLine "numeric_bounds" settings.bounds
  let hint : Text :=
    "(No config file exists. Run 'cardq config set <key> <value>' to create one.)"
  Text.ofLines (opening ++ if present then output ++ [] :: search else [hint])

/-- What is shown of the settings. -/
def viewReport (manner : Manner) (path : Text) (found : Found) (settings : Settings) : Report :=
  let json := .object
    [("config", settings.toJson), ("exists", .bool (isPresent found)), ("path", .text path)]
  let table := settingsTable manner.colors path (isPresent found) settings
  { out := manner.answer json table, err := [] }

/-- Shows the settings. -/
def viewSettings (manner : Manner) (path : Text) (found : Found) : Except Failure Plan := do
  return .print (viewReport manner path found (← loadSettings found))

/-- What is shown of the path of the settings, also to those who want to see nothing but
failures. -/
def pathReport (manner : Manner) (path : Text) (found : Found) : Report :=
  let json := .object [("exists", .bool (isPresent found)), ("path", .text path)]
  { out := { manner with quiet := false }.answer json (path ++ ['\n']), err := [] }

/-- What is told of a setting that was changed. -/
def changeReport (manner : Manner) (path name value : Text) : Report :=
  let json := .object
    [("key", .text name), ("path", .text path), ("status", .text "success"),
      ("value", .text value)]
  { out := manner.answer json ("Set " ++ name ++ " = " ++ value ++ ['\n'])
    err := manner.notes ["Wrote " ++ path] }

/-- Changes a setting. -/
def changeSetting (manner : Manner) (path : Text) (found : Found) (name value : Text) :
    Except Failure Plan := do
  let settings ← loadSettings found
  let changed ← settings.set name value
  return .save path changed.write (changeReport manner path name value)

/-- Plans what is to be done with the settings. -/
def ofSettingsAction (env : Environment) (found : Found) (manner : Manner)
    (action : SettingsAction) : Except Failure Plan := do
  let path ← settingsPath env
  match action with
  | .view => viewSettings manner path found
  | .path => return .print (pathReport manner path found)
  | .set name value => changeSetting manner path found name value

end CardCatalog.Plan
