import CardCatalog.Proofs.Last
import CardCatalog.Proofs.Session.Success
import CardCatalog.Proofs.Settings.RoundTrip

/-!
# The last change of a setting

Over a whole session the file of settings keeps for each setting the value that it was given last
(`runAll_keeps_last`). What one command line does to the settings is `settingsAfter`; a folder that
keeps settings which can be saved keeps those afterwards (`Keeps.runLine`), and so does it after a
session (`Keeps.runAll`).
-/

namespace CardCatalog.Session

variable {env : Environment} {folder : Folder} {path name value : Text} {words : List Text}
  {settings : Settings}

/-! ## What a command line gives -/

/-- The name and the value of the setting that is changed, if a command line is for a change. -/
def change? (words : List Text) : Option (Text × Text) :=
  match CommandLine.read words with
  | .ok ⟨_, some (.settings (.set name value))⟩ => some (name, value)
  | _ => none

/-- The value that a command line gives to the setting with this name. -/
def given? {α : Type} (name : Text) (read : Text → Except Failure α) (words : List Text) :
    Option α :=
  (change? words).bind fun change =>
    if change.1 = name then (read change.2).toOption else none

theorem given?_of_some {α : Type} (h : change? words = some (name, value)) (other : Text)
    (read : Text → Except Failure α) :
    given? other read words = if name = other then (read value).toOption else none := by
  rw [given?, h]
  rfl

theorem given?_of_none {α : Type} (h : change? words = none) (name : Text)
    (read : Text → Except Failure α) : given? name read words = none := by
  rw [given?, h]
  rfl

/-- The value for the setting of colors. -/
def givenColor? : List Text → Option Bool := given? "output.color" Settings.readBool

/-- The value for the setting of JSON. -/
def givenJson? : List Text → Option Bool := given? "output.json" Settings.readBool

/-- The value for the setting of the bound policy, which is kept by its proper name. -/
def givenBounds? : List Text → Option Text :=
  given? "search.numeric_bounds" fun value => (Settings.readPolicy value).map BoundPolicy.name

/-- The settings after a command line. -/
def settingsAfter (settings : Settings) (words : List Text) : Settings where
  version := settings.version
  color := (givenColor? words).or settings.color
  json := (givenJson? words).or settings.json
  bounds := (givenBounds? words).or settings.bounds

theorem change?_eq_some_iff :
    change? words = some (name, value) ↔
      ∃ flags, CommandLine.read words = .ok ⟨flags, some (.settings (.set name value))⟩ := by
  rw [change?]
  constructor
  · intro h
    split at h
    · next flags _ _ hread =>
      cases h
      exact ⟨flags, hread⟩
    · cases h
  · rintro ⟨flags, hread⟩
    rw [hread]

theorem settingsAfter_of_none (h : change? words = none) :
    settingsAfter settings words = settings := by
  rw [settingsAfter, givenColor?, givenJson?, givenBounds?, given?_of_none h, given?_of_none h,
    given?_of_none h]
  rfl

theorem settingsAfter_of_some (h : change? words = some (name, value)) :
    settingsAfter settings words = (settings.set name value).toOption.getD settings := by
  rw [settingsAfter, givenColor?, givenJson?, givenBounds?, given?_of_some h, given?_of_some h,
    given?_of_some h]
  rcases Settings.set_cases settings name value with
    ⟨rfl, hset⟩ | ⟨rfl, hset⟩ | ⟨rfl, hset⟩ | ⟨⟨hcolor, hjson, hbounds⟩, hset⟩
  · rw [hset, if_pos rfl, if_neg (by decide), if_neg (by decide)]
    cases Settings.readBool value <;> rfl
  · rw [hset, if_neg (by decide), if_pos rfl, if_neg (by decide)]
    cases Settings.readBool value <;> rfl
  · rw [hset, if_neg (by decide), if_neg (by decide), if_pos rfl]
    cases Settings.readPolicy value <;> rfl
  · rw [hset, if_neg hcolor, if_neg hjson, if_neg hbounds]
    rfl

/-- After several command lines, each setting has the value that was given last. -/
theorem foldl_settingsAfter (settings : Settings) (lines : List (List Text)) :
    lines.foldl settingsAfter settings =
      { version := settings.version
        color := (lines.filterMap givenColor?).getLast?.or settings.color
        json := (lines.filterMap givenJson?).getLast?.or settings.json
        bounds := (lines.filterMap givenBounds?).getLast?.or settings.bounds } := by
  -- on either side a fold over the lines: of the settings, and of each of them alone
  simp only [← foldl_or]
  induction lines generalizing settings with
  | nil => rfl
  | cons words rest ih => exact ih (settingsAfter settings words)

/-! ## What is kept in a folder -/

/-- The settings are those at the path, where they can be saved again. -/
structure Keeps (folder : Folder) (path : Text) (settings : Settings) : Prop where
  writable : Writable folder path
  load : Plan.loadSettings (folder.look path) = .ok settings

theorem version_of_loadSettings {found : Found} (h : Plan.loadSettings found = .ok settings) :
    settings.version = Settings.currentVersion := by
  rcases Plan.loadSettings_eq_ok_iff.1 h with ⟨-, rfl⟩ | ⟨document, written, -, -, rfl⟩ <;> rfl

/-- A command line that changes no setting changes nothing. -/
theorem runLine_of_change?_eq_none (env : Environment) (folder : Folder)
    (h : change? words = none) : (runLine env folder words).1 = folder := by
  rw [runLine]
  cases hread : CommandLine.read words with
  | error halt => rfl
  | ok invocation =>
    rcases run_cases env folder invocation with
      ⟨failure, -, hrun⟩ | ⟨report, hrun⟩ | ⟨path, content, report, name, value, -, hcommand, -⟩
    · simp only [hrun]
    · simp only [hrun]
    · obtain ⟨flags, command⟩ := invocation
      obtain rfl : command = _ := hcommand
      rw [change?_eq_some_iff.2 ⟨flags, hread⟩] at h
      cases h

/-- Settings that are saved are found again. -/
theorem load_write (h : settings.version = Settings.currentVersion) :
    Plan.loadSettings (.content settings.write) = .ok settings := by
  obtain ⟨version, color, json, bounds⟩ := settings
  obtain rfl : version = _ := h
  exact Plan.loadSettings_eq_ok_iff.2 (Or.inr ⟨_, _, rfl, Settings.read_write rfl, rfl⟩)

theorem keeps_of_save {after : Folder} (hversion : settings.version = Settings.currentVersion)
    (h : save folder path settings.write = (after, .ok ())) : Keeps after path settings where
  writable := writable_of_save h
  load := by rw [look_of_save h, load_write hversion]

section Keeps

variable (hpath : env.settingsPath? = some path) (h : Keeps folder path settings)

include hpath h

/-- A change of a setting is made and kept, or refused and the folder left as it was. -/
theorem Keeps.runLine_change (hchange : change? words = some (name, value)) :
    (∃ changed, settings.set name value = .ok changed ∧
        (runLine env folder words).2.exitCode = 0 ∧
        Keeps (runLine env folder words).1 path changed) ∨
      (∃ failure, settings.set name value = .error failure ∧
        (runLine env folder words).2.exitCode ≠ 0 ∧ (runLine env folder words).1 = folder) := by
  obtain ⟨flags, hread⟩ := change?_eq_some_iff.1 hchange
  obtain ⟨hfolder, houtcome⟩ := runLine_of_read env folder hread
  have hbind : (Except.ok settings >>= fun settings => settings.set name value) =
      settings.set name value := rfl
  rw [run_set hpath, h.load, hbind] at hfolder houtcome
  cases hset : settings.set name value with
  | error failure =>
    rw [hset] at hfolder houtcome
    refine Or.inr ⟨failure, rfl, ?_, hfolder⟩
    rw [houtcome, Ne, exitCode_ofRun_eq_zero_iff]
    rintro ⟨_, ⟨⟩⟩
  | ok changed =>
    rw [hset] at hfolder houtcome
    -- only settings of the current version are read back as they were written
    have hversion : changed.version = Settings.currentVersion := by
      have hafter : settingsAfter settings words = changed := by
        rw [settingsAfter_of_some hchange, hset]
        rfl
      rw [← version_of_loadSettings h.load, ← hafter, settingsAfter]
    refine Or.inl ⟨changed, rfl, ?_, ?_⟩
    · rw [houtcome, exitCode_ofRun_eq_zero_iff]
      change ∃ report, (save folder path changed.write).2.map _ = .ok report
      rw [h.writable]
      exact ⟨_, rfl⟩
    · rw [hfolder]
      exact keeps_of_save hversion (Prod.ext rfl (h.writable _))

/-- Changing a setting succeeds just if it can have the value. -/
theorem Keeps.exitCode_eq_zero_iff (hchange : change? words = some (name, value)) :
    (runLine env folder words).2.exitCode = 0 ↔ Settings.Accepts name value := by
  rw [← Settings.exists_set_eq_ok_iff settings]
  rcases h.runLine_change hpath hchange with ⟨changed, hset, hcode, -⟩ | ⟨failure, hset, hcode, -⟩
  · exact iff_of_true hcode ⟨changed, hset⟩
  · exact iff_of_false hcode (by simp [hset])

/-- One command line changes what it gives and keeps the rest. -/
theorem Keeps.runLine (words : List Text) :
    Keeps (runLine env folder words).1 path (settingsAfter settings words) := by
  cases hchange : change? words with
  | none =>
    rw [runLine_of_change?_eq_none env folder hchange, settingsAfter_of_none hchange]
    exact h
  | some change =>
    rw [settingsAfter_of_some hchange]
    rcases h.runLine_change hpath hchange with
      ⟨changed, hset, -, hkeeps⟩ | ⟨failure, hset, -, hfolder⟩
    · rw [hset]
      exact hkeeps
    · rw [hset, hfolder]
      exact h

end Keeps

/-! ## Sessions -/

/-- The folder that a session leaves. -/
def folderAfter (env : Environment) (folder : Folder) (lines : List (List Text)) : Folder :=
  ((runAll env folder lines).getLast?.map (·.1)).getD folder

theorem folderAfter_cons (rest : List (List Text)) :
    folderAfter env folder (words :: rest) = folderAfter env (runLine env folder words).1 rest := by
  rw [folderAfter, folderAfter, runAll, List.getLast?_cons]
  cases (runAll env (runLine env folder words).1 rest).getLast? <;> rfl

theorem Keeps.runAll (hpath : env.settingsPath? = some path) (h : Keeps folder path settings)
    (lines : List (List Text)) :
    Keeps (folderAfter env folder lines) path (lines.foldl settingsAfter settings) := by
  induction lines generalizing folder settings with
  | nil => exact h
  | cons words rest ih =>
    rw [folderAfter_cons, List.foldl_cons]
    exact ih (h.runLine hpath words)

theorem Keeps.forall₂_exitCode (hpath : env.settingsPath? = some path)
    (h : Keeps folder path settings) (lines : List (List Text)) :
    List.Forall₂ (fun words step => ∀ name value, change? words = some (name, value) →
        (step.2.exitCode = 0 ↔ Settings.Accepts name value))
      lines (Session.runAll env folder lines) := by
  induction lines generalizing folder settings with
  | nil => exact .nil
  | cons words rest ih =>
    exact .cons (fun name value hchange => h.exitCode_eq_zero_iff hpath hchange)
      (ih (h.runLine hpath words))

/-- **The last change of each setting is kept.** In a session from settings that can be loaded and
saved, each change of a setting succeeds just if the setting can have the value; and at the end the
settings can be loaded and each has the value that it was given last, or else that of the start,
also where this is the name of no bound policy. -/
theorem runAll_keeps_last (hpath : env.settingsPath? = some path)
    (hwritable : Writable folder path) (hload : Plan.loadSettings (folder.look path) = .ok settings)
    (lines : List (List Text)) :
    List.Forall₂ (fun words step => ∀ name value, change? words = some (name, value) →
        (step.2.exitCode = 0 ↔ Settings.Accepts name value)) lines (runAll env folder lines) ∧
      Plan.loadSettings ((folderAfter env folder lines).look path) =
        .ok { version := 1
              color := (lines.filterMap givenColor?).getLast?.or settings.color
              json := (lines.filterMap givenJson?).getLast?.or settings.json
              bounds := (lines.filterMap givenBounds?).getLast?.or settings.bounds } := by
  have h : Keeps folder path settings := ⟨hwritable, hload⟩
  refine ⟨h.forall₂_exitCode hpath lines, ?_⟩
  rw [(h.runAll hpath lines).load, foldl_settingsAfter, version_of_loadSettings hload]
  rfl

theorem session_beside_unknown_policy :
    let env : Environment := ⟨some "cardq.toml", none, none, false⟩
    let folder := Folder.empty.add "cardq.toml" (.file "[search]\nnumeric_bounds = 'loose'\n")
    let lines : List (List Text) :=
      [["config", "set", "output.color", "NO"],
       ["config", "set", "search.numeric_bounds", "looser"],
       ["config", "set", "output.color", "On"], ["config", "show"]]
    env.settingsPath? = some "cardq.toml".toList ∧ Writable folder "cardq.toml" ∧
      Plan.loadSettings (folder.look "cardq.toml") = .ok ⟨1, none, none, some "loose"⟩ ∧
      Plan.loadSettings ((folderAfter env folder lines).look "cardq.toml") =
        .ok ⟨1, some true, none, some "loose"⟩ := by
  intro env folder lines
  have hpath : env.settingsPath? = some "cardq.toml".toList := rfl
  have hwritable : Writable folder "cardq.toml" := by decide +kernel
  have hload : Plan.loadSettings (folder.look "cardq.toml") =
      .ok ⟨1, none, none, some "loose"⟩ := by decide +kernel
  have hcolor : (lines.filterMap givenColor?).getLast? = some true := by decide +kernel
  have hjson : (lines.filterMap givenJson?).getLast? = none := by decide +kernel
  have hbounds : (lines.filterMap givenBounds?).getLast? = none := by decide +kernel
  have hlast := (runAll_keeps_last hpath hwritable hload lines).2
  rw [hcolor, hjson, hbounds] at hlast
  exact ⟨hpath, hwritable, hload, hlast⟩

end CardCatalog.Session
