import CardCatalog.Plan.Command
import CardCatalog.Proofs.Settings.Failures

/-!
# What is planned

An invocation plans to write a file only if it changes a setting (`of_ofInvocation_eq_save`), and
fails with a failure that is about the settings or about how a search is done
(`failsWith_ofInvocation`). Of a search, only what is found at the path of the settings decides
whether it fails, and how (`ofSearch_cases`).
-/

namespace CardCatalog

/-- The failure is about the settings or about how a search is done. -/
def Failure.IsTold (failure : Failure) : Prop :=
  failure.kind = .settings ∨ failure.kind = .search

theorem Failure.IsTold.exitCode_eq {failure : Failure} (h : failure.IsTold) :
    failure.kind.exitCode = 5 := by
  rcases h with hkind | hkind <;> rw [hkind, Kind.exitCode]

/-- The command is a search: all but those on the program itself. -/
def Command.isSearch : Command → Bool
  | .settings _ | .completions _ => false
  | _ => true

namespace Plan

variable {env : Environment} {found : Found} {manner : Manner} {path : Text}

/-! ## Failures -/

theorem failsWith_loadSettings (found : Found) :
    FailsWith (·.kind = .settings) (loadSettings found) := by
  cases found with
  | missing => exact failsWith_ok _
  | unreadable => exact failsWith_error rfl
  | content document => exact (Settings.failsWith_read document).bind fun _ => failsWith_ok _

theorem failsWith_settingsPath (env : Environment) :
    FailsWith (·.kind = .settings) (settingsPath env) := by
  rw [settingsPath]
  split
  · exact failsWith_ok _
  · exact failsWith_error rfl

theorem failsWith_withSettings (manner : Manner) (settings : Settings) :
    FailsWith (·.kind = .search) (manner.withSettings settings) := by
  rw [Manner.withSettings]
  cases settings.bounds with
  | none => exact failsWith_ok _
  | some name => exact (Settings.failsWith_readPolicy name).bind fun _ => failsWith_ok _

theorem failsWith_ofSearch (env : Environment) (found : Found) (manner : Manner)
    (report : Manner → Report) : FailsWith Failure.IsTold (ofSearch env found manner report) :=
  ((failsWith_settingsPath env).imp fun _ => Or.inl).bind fun _ =>
    ((failsWith_loadSettings found).imp fun _ => Or.inl).bind fun settings =>
      ((failsWith_withSettings manner settings).imp fun _ => Or.inr).bind fun _ => failsWith_ok _

theorem failsWith_ofSettingsAction (env : Environment) (found : Found) (manner : Manner)
    (action : SettingsAction) :
    FailsWith Failure.IsTold (ofSettingsAction env found manner action) := by
  refine ((failsWith_settingsPath env).imp fun _ => Or.inl).bind fun path => ?_
  have hload := (failsWith_loadSettings found).imp (Q := Failure.IsTold) fun _ => Or.inl
  cases action with
  | view => exact hload.bind fun _ => failsWith_ok _
  | path => exact failsWith_ok _
  | set name value =>
    exact hload.bind fun settings =>
      (Settings.failsWith_set settings name value).bind fun _ => failsWith_ok _

theorem failsWith_ofInvocation (env : Environment) (found : Found) (invocation : Invocation) :
    FailsWith Failure.IsTold (ofInvocation env found invocation) := by
  rw [ofInvocation]
  cases invocation.command with
  | none => exact failsWith_ok _
  | some command =>
    cases command with
    | settings action => exact failsWith_ofSettingsAction _ _ _ _
    | completions shell => exact failsWith_ok _
    | _ => exact failsWith_ofSearch _ _ _ _

/-! ## Searches -/

/-- Why the settings let no search be done, if they let none: the name of their bound policy. -/
def policyFailure? (settings : Settings) : Option Failure :=
  settings.bounds.bind fun name =>
    match Settings.readPolicy name with
    | .error failure => some failure
    | .ok _ => none

/-- Why no search can be done with what is found at the path of the settings, if none can. -/
def searchFailure? (found : Found) : Option Failure :=
  match loadSettings found with
  | .error failure => some failure
  | .ok settings => policyFailure? settings

theorem withSettings_cases (manner : Manner) (settings : Settings) :
    (∃ failure, policyFailure? settings = some failure ∧
        manner.withSettings settings = .error failure) ∨
      policyFailure? settings = none ∧
        ∃ preferred, manner.withSettings settings = .ok preferred := by
  rw [policyFailure?, Manner.withSettings]
  cases settings.bounds with
  | none => exact Or.inr ⟨rfl, _, rfl⟩
  | some name =>
    simp only [Option.bind_some]
    cases Settings.readPolicy name with
    | error failure => exact Or.inl ⟨failure, rfl, rfl⟩
    | ok policy => exact Or.inr ⟨rfl, _, rfl⟩

/-- **Whether a search is done, and why not, is decided before its expression is looked at.** -/
theorem ofSearch_cases (hpath : env.settingsPath? = some path) (found : Found) (manner : Manner)
    (report : Manner → Report) :
    (∃ failure, searchFailure? found = some failure ∧
        ofSearch env found manner report = .error failure) ∨
      searchFailure? found = none ∧
        ∃ preferred, ofSearch env found manner report = .ok (.print (report preferred)) := by
  rw [ofSearch, settingsPath, hpath, searchFailure?]
  cases loadSettings found with
  | error failure => exact Or.inl ⟨failure, rfl, rfl⟩
  | ok settings =>
    rcases withSettings_cases manner settings with ⟨failure, hfailure, h⟩ | ⟨hnone, preferred, h⟩
    · exact Or.inl ⟨failure, hfailure, by simp only [bind, Except.bind, h]⟩
    · exact Or.inr ⟨hnone, preferred, by simp only [bind, Except.bind, h]; rfl⟩

/-- All searches are planned alike, but for what they report. -/
theorem exists_ofInvocation_eq_ofSearch {command : Command} (h : command.isSearch = true)
    (env : Environment) (found : Found) (flags : Flags) :
    ∃ report, ofInvocation env found ⟨flags, some command⟩ =
      ofSearch env found (Manner.ofFlags env flags) report := by
  cases command with
  | settings action => cases h
  | completions shell => cases h
  | _ => exact ⟨_, rfl⟩

theorem loadSettings_eq_ok_iff {settings : Settings} :
    loadSettings found = .ok settings ↔
      found = .missing ∧ settings = Settings.unset ∨
        ∃ document written, found = .content document ∧ Settings.read document = .ok written ∧
          settings = written.migrate := by
  cases found with
  | missing => simp [loadSettings, eq_comm]
  | unreadable => simp [loadSettings]
  | content document =>
    rw [loadSettings]
    cases hread : Settings.read document with
    | error failure => simp [bind, Except.bind, hread]
    | ok written => simp [bind, Except.bind, pure, Except.pure, hread, eq_comm]

theorem policyFailure?_eq_none_iff {settings : Settings} :
    policyFailure? settings = none ↔
      ∀ name ∈ settings.bounds, ∃ policy, BoundPolicy.ofName name = .ok policy := by
  rw [policyFailure?, Option.bind_eq_none_iff]
  refine forall₂_congr fun name _ => ?_
  rw [← Settings.exists_readPolicy_eq_ok_iff]
  cases Settings.readPolicy name <;> simp

theorem kind_of_policyFailure? {settings : Settings} {failure : Failure}
    (h : policyFailure? settings = some failure) : failure.kind = .search := by
  obtain ⟨name, -, h⟩ := Option.bind_eq_some_iff.1 h
  split at h
  · next hfails =>
    cases h
    exact Settings.failsWith_readPolicy name _ hfails
  · cases h

theorem searchFailure?_content (document : Text) :
    searchFailure? (.content document) =
      match Settings.read document with
      | .error failure => some failure
      | .ok settings => policyFailure? settings := by
  rw [searchFailure?, loadSettings]
  cases Settings.read document <;> rfl

/-- Searches are done if there is no file of settings, or one that can be read and names a bound
policy, if any, that there is. -/
theorem searchFailure?_eq_none_iff :
    searchFailure? found = none ↔
      found = .missing ∨ ∃ document settings, found = .content document ∧
        Settings.read document = .ok settings ∧
          ∀ name ∈ settings.bounds, ∃ policy, BoundPolicy.ofName name = .ok policy := by
  simp only [← policyFailure?_eq_none_iff]
  cases found with
  | missing => exact iff_of_true rfl (Or.inl rfl)
  | unreadable => simp [searchFailure?, loadSettings]
  | content document =>
    rw [searchFailure?_content]
    cases hread : Settings.read document with
    | error failure => simp [hread]
    | ok settings => simp [hread]

/-- A search fails for a reason of its own just if the settings can be read and name a bound policy
that there is not. -/
theorem exists_searchFailure?_iff :
    (∃ failure, searchFailure? found = some failure ∧ failure.kind = .search) ↔
      ∃ document settings name, found = .content document ∧
        Settings.read document = .ok settings ∧ settings.bounds = some name ∧
          ∀ policy, BoundPolicy.ofName name ≠ .ok policy := by
  cases found with
  | missing => simp [searchFailure?, loadSettings, policyFailure?, Settings.unset]
  | unreadable => simp [searchFailure?, loadSettings, Failure.kind]
  | content document =>
    rw [searchFailure?_content]
    cases hread : Settings.read document with
    | error failure =>
      have hkind : failure.kind ≠ .search := by
        rw [Settings.failsWith_read document failure hread]
        decide
      simp [hread, hkind]
    | ok settings =>
      have hsome : (∃ failure, policyFailure? settings = some failure ∧ failure.kind = .search) ↔
          policyFailure? settings ≠ none := by
        rw [Option.ne_none_iff_exists']
        exact exists_congr fun _ => and_iff_left_of_imp kind_of_policyFailure?
      simp [hread, hsome, policyFailure?_eq_none_iff]

/-! ## Commands on the settings -/

section Settings

variable (hpath : env.settingsPath? = some path) (found : Found) (flags : Flags)

include hpath

theorem ofInvocation_view :
    ofInvocation env found ⟨flags, some (.settings .view)⟩ =
      (loadSettings found).map fun settings =>
        .print (viewReport (Manner.ofFlags env flags) path found settings) := by
  simp only [ofInvocation, ofSettingsAction, settingsPath, hpath, viewSettings]
  cases loadSettings found <;> rfl

theorem ofInvocation_path :
    ofInvocation env found ⟨flags, some (.settings .path)⟩ =
      .ok (.print (pathReport (Manner.ofFlags env flags) path found)) := by
  simp only [ofInvocation, ofSettingsAction, settingsPath, hpath]
  rfl

theorem ofInvocation_set (name value : Text) :
    ofInvocation env found ⟨flags, some (.settings (.set name value))⟩ =
      (loadSettings found >>= fun settings => settings.set name value).map fun changed =>
        .save path changed.write (changeReport (Manner.ofFlags env flags) path name value) := by
  simp only [ofInvocation, ofSettingsAction, settingsPath, hpath, changeSetting]
  cases loadSettings found with
  | error failure => rfl
  | ok settings =>
    generalize hset : settings.set name value = changed
    cases changed with
    | error failure => simp [bind, Except.bind, Except.map, hset]
    | ok changed => simp [bind, Except.bind, Except.map, pure, Except.pure, hset]

end Settings

/-- A search plans to print. -/
theorem ofSearch_ne_save {report : Manner → Report} {content : Text} {changed : Report} :
    ofSearch env found manner report ≠ .ok (.save path content changed) := by
  intro h
  obtain ⟨_, -, h⟩ := exists_bind_eq_ok h
  obtain ⟨_, -, h⟩ := exists_bind_eq_ok h
  obtain ⟨_, -, h⟩ := exists_bind_eq_ok h
  cases h

theorem settingsPath_eq_ok_iff : settingsPath env = .ok path ↔ env.settingsPath? = some path := by
  rw [settingsPath]
  cases env.settingsPath? <;> simp

/-- Only a change of a setting plans to write, and no other file than that of the settings. -/
theorem of_ofInvocation_eq_save {invocation : Invocation} {content : Text} {report : Report}
    (h : ofInvocation env found invocation = .ok (.save path content report)) :
    env.settingsPath? = some path ∧
      ∃ name value, invocation.command = some (.settings (.set name value)) := by
  rw [ofInvocation] at h
  cases hcommand : invocation.command with
  | none =>
    rw [hcommand] at h
    cases h
  | some command =>
    rw [hcommand] at h
    cases command with
    | completions shell => cases h
    | settings action =>
      obtain ⟨settled, hsettled, h⟩ := exists_bind_eq_ok h
      cases action with
      | view =>
        obtain ⟨_, -, h⟩ := exists_bind_eq_ok h
        cases h
      | path => cases h
      | set name value =>
        obtain ⟨_, -, h⟩ := exists_bind_eq_ok h
        obtain ⟨_, -, h⟩ := exists_bind_eq_ok h
        cases h
        exact ⟨settingsPath_eq_ok_iff.1 hsettled, name, value, rfl⟩
    | _ => exact absurd h ofSearch_ne_save

end Plan

end CardCatalog
