import CardCatalog.Filter.Range
import CardCatalog.Toml.Document

/-!
# Failures

The reasons for which a command can fail once the command line is understood, each of a kind that
gives it its code, its exit code and the first words of its message. No expression is ever refused.
-/

namespace CardCatalog

/-- Why a command failed. -/
inductive Failure where
  /-- Nothing says where the settings are kept. -/
  | noSettingsFolder
  | unreadableSettings
  | malformedSettings (fault : Toml.Fault)
  /-- A setting has a value of another kind than it must have. -/
  | misfitSetting (name : Text)
  | settingsFolderNotMade
  | unwritableSettings
  | unknownSetting (name : Text)
  | notABoolean (written : Text)
  | unknownPolicy (policy : BoundPolicy.Unknown)
  /-- The system did not take what was to be printed. -/
  | unwrittenOutput (cause : Text)
  /-- An answer has no form as JSON. -/
  | unwritableJson (cause : Text)
  deriving DecidableEq, Repr

namespace Failure

/-- What a failure is about. -/
inductive Kind where
  | settings
  /-- How a search is done. -/
  | search
  | output
  | json
  deriving DecidableEq, Repr

/-- The name of a kind of failure. -/
def Kind.code : Kind → Text
  | settings => "CONFIG_ERROR"
  | search => "SEARCH_ERROR"
  | output => "IO_ERROR"
  | json => "JSON_ERROR"

/-- The exit code for a kind of failure. -/
def Kind.exitCode : Kind → Nat
  | settings | search => 5
  | output => 3
  | json => 1

/-- What a user is told first about a kind of failure. -/
def Kind.opening : Kind → Text
  | settings => "configuration error: "
  | search => "search error: "
  | output => "I/O error: "
  | json => "serialization error: "

/-- The kind of a failure. -/
def kind : Failure → Kind
  | unknownPolicy _ => .search
  | unwrittenOutput _ => .output
  | unwritableJson _ => .json
  | _ => .settings

/-- The name of the kind of failure. -/
def code (failure : Failure) : Text := failure.kind.code

/-- The names of the settings. -/
def settingNames : List Text := ["output.color", "output.json", "search.numeric_bounds"]

/-- What is wrong with a document. -/
def faultMessage : Toml.Fault → Text
  | .notToml => "the file is not TOML"
  | .saidTwice keys => "'" ++ List.intercalate ['.'] keys ++ "' is there already"

/-- What failed, without its kind. -/
def reason : Failure → Text
  | noSettingsFolder => "Could not determine config directory"
  | unreadableSettings => "Failed to read config: the file has no readable text"
  | malformedSettings fault => "Failed to parse config: " ++ faultMessage fault
  | misfitSetting name => "Failed to parse config: '" ++ name ++ "' has a value of the wrong type"
  | settingsFolderNotMade => "Failed to create config directory: the path is taken"
  | unwritableSettings => "Failed to write config: the path names no file"
  | unknownSetting name =>
    "Unknown config key '" ++ name ++ "'. Valid keys: " ++
      List.intercalate ", ".toList settingNames
  | notABoolean written =>
    "Invalid boolean value '" ++ written ++ "'. Use true/false, yes/no, 1/0, or on/off"
  | unknownPolicy policy => policy.message
  | unwrittenOutput cause => cause
  | unwritableJson cause => cause

/-- What a user is told. -/
def message (failure : Failure) : Text := failure.kind.opening ++ failure.reason

end Failure

end CardCatalog
