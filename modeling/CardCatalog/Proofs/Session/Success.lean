import CardCatalog.Proofs.CommandLine.Searches
import CardCatalog.Proofs.Session.Saving

/-!
# Command lines that succeed

Whether a command line that was understood succeeds depends on the file of settings. A search needs
settings that can be read and a bound policy that there is, and nothing else: its expression has no
say in it (`search_succeeds_iff`). A command on the settings works with any bound policy, but the
file must be readable for all of them except the one that only tells its path
(`settings_succeed_iff`).
-/

namespace CardCatalog.Session

variable {env : Environment} {folder : Folder} {path : Text} {words : List Text} {flags : Flags}

/-- The failure that comes of a command line, if it fails. -/
def Outcome.failure? : Outcome → Option Failure
  | failed _ failure => some failure
  | _ => none

/-! ## Command lines that were understood -/

theorem exitCode_ofRun_eq_zero_iff {result : Except Failure Report} :
    (Outcome.ofRun flags result).exitCode = 0 ↔ ∃ report, result = .ok report := by
  cases result with
  | ok report => exact iff_of_true rfl ⟨report, rfl⟩
  | error failure =>
    refine iff_of_false ?_ (by rintro ⟨_, ⟨⟩⟩)
    change failure.kind.exitCode ≠ 0
    cases failure.kind <;> decide

theorem failure?_ofRun_eq_none_iff {result : Except Failure Report} :
    (Outcome.ofRun flags result).failure? = none ↔ ∃ report, result = .ok report := by
  cases result with
  | ok report => exact iff_of_true rfl ⟨report, rfl⟩
  | error failure => exact iff_of_false (by rintro ⟨⟩) (by rintro ⟨_, ⟨⟩⟩)

theorem runLine_of_read (env : Environment) (folder : Folder) {invocation : Invocation}
    (h : CommandLine.read words = .ok invocation) :
    (runLine env folder words).1 = (run env folder invocation).1 ∧
      (runLine env folder words).2 = .ofRun invocation.flags (run env folder invocation).2 := by
  rw [runLine, h]
  exact ⟨rfl, rfl⟩

/-! ## Searches -/

theorem failure?_search {command : Command} (hpath : env.settingsPath? = some path)
    (hsearch : command.isSearch = true) :
    (Outcome.ofRun flags (run env folder ⟨flags, some command⟩).2).failure? =
      Plan.searchFailure? (folder.look path) := by
  obtain ⟨report, hplan⟩ :=
    Plan.exists_ofInvocation_eq_ofSearch hsearch env (folder.look path) flags
  rw [run_eq, lookForSettings_eq hpath, hplan]
  rcases Plan.ofSearch_cases hpath (folder.look path) (Manner.ofFlags env flags) report with
    ⟨failure, hfailure, h⟩ | ⟨hnone, preferred, h⟩
  · rw [h, hfailure]
    rfl
  · rw [h, hnone]
    rfl

/-- **No expression is ever refused.** Every search can be asked for, and it succeeds if there is no
file of settings, or one that can be read and names a bound policy, if any, that there is. It fails
for the search just if the settings can be read and there is no such policy; and how it fails is
decided by the file of settings alone. -/
theorem search_succeeds_iff (hpath : env.settingsPath? = some path) (folder : Folder)
    (flags : Flags) {command : Command} (hsearch : command.isSearch = true) :
    (∃ words, CommandLine.read words = .ok ⟨flags, some command⟩) ∧
      ∀ words, CommandLine.read words = .ok ⟨flags, some command⟩ →
        ((runLine env folder words).2.exitCode = 0 ↔
          folder.look path = .missing ∨ ∃ document settings, folder.look path = .content document ∧
            Settings.read document = .ok settings ∧
              ∀ name ∈ settings.bounds, ∃ policy, BoundPolicy.ofName name = .ok policy) ∧
        ((∃ failure, (runLine env folder words).2.failure? = some failure ∧
            failure.kind = .search) ↔
          ∃ document settings name, folder.look path = .content document ∧
            Settings.read document = .ok settings ∧ settings.bounds = some name ∧
              ∀ policy, BoundPolicy.ofName name ≠ .ok policy) ∧
        (runLine env folder words).2.failure? = Plan.searchFailure? (folder.look path) := by
  refine ⟨CommandLine.exists_read_eq_search flags hsearch, fun words hread => ?_⟩
  rw [(runLine_of_read env folder hread).2, exitCode_ofRun_eq_zero_iff,
    ← failure?_ofRun_eq_none_iff, failure?_search hpath hsearch]
  exact ⟨Plan.searchFailure?_eq_none_iff, Plan.exists_searchFailure?_iff, rfl⟩

theorem search_with_unknown_policy :
    let env : Environment := ⟨some "cardq.toml", none, none, false⟩
    let command : Command := .parse ["force>"]
    let words : List Text := ["parse", "force>"]
    let folder := Folder.empty.add "cardq.toml" (.file "[search]\nnumeric_bounds = 'loose'\n")
    env.settingsPath? = some "cardq.toml".toList ∧ command.isSearch = true ∧
      CommandLine.read words = .ok ⟨⟨false, false, false, false⟩, some command⟩ ∧
      (runLine env Folder.empty words).2.exitCode = 0 ∧
      ∃ failure, (runLine env folder words).2.failure? = some failure ∧ failure.kind = .search := by
  intro env command words folder
  have hpath : env.settingsPath? = some "cardq.toml".toList := rfl
  have hsearch : command.isSearch = true := rfl
  have hread : CommandLine.read words = .ok ⟨⟨false, false, false, false⟩, some command⟩ := rfl
  have hempty := (search_succeeds_iff hpath Folder.empty _ hsearch).2 words hread
  have hfolder := (search_succeeds_iff hpath folder _ hsearch).2 words hread
  have hmissing : Folder.empty.look "cardq.toml" = .missing := by decide +kernel
  have hlook : folder.look "cardq.toml" =
      .content "[search]\nnumeric_bounds = 'loose'\n" := by decide +kernel
  have hsettings : Settings.read "[search]\nnumeric_bounds = 'loose'\n" =
      .ok ⟨1, none, none, some "loose"⟩ := by decide +kernel
  have hpolicy : ∀ policy, BoundPolicy.ofName "loose" ≠ .ok policy := by
    intro policy
    cases policy <;> decide +kernel
  exact ⟨hpath, hsearch, hread, hempty.1.2 (Or.inl hmissing),
    hfolder.2.1.2 ⟨_, _, _, hlook, hsettings, rfl, hpolicy⟩⟩

/-! ## Commands on the settings -/

section Settings

variable (hpath : env.settingsPath? = some path) (folder : Folder) (flags : Flags)

include hpath

theorem run_view :
    run env folder ⟨flags, some (.settings .view)⟩ =
      (folder, (Plan.loadSettings (folder.look path)).map
        (Plan.viewReport (Manner.ofFlags env flags) path (folder.look path))) := by
  rw [run_eq, lookForSettings_eq hpath, Plan.ofInvocation_view hpath]
  cases Plan.loadSettings (folder.look path) <;> rfl

theorem run_path :
    run env folder ⟨flags, some (.settings .path)⟩ =
      (folder, .ok (Plan.pathReport (Manner.ofFlags env flags) path (folder.look path))) := by
  rw [run_eq, lookForSettings_eq hpath, Plan.ofInvocation_path hpath]

theorem run_set (name value : Text) :
    run env folder ⟨flags, some (.settings (.set name value))⟩ =
      match Plan.loadSettings (folder.look path) >>= fun settings => settings.set name value with
      | .error failure => (folder, .error failure)
      | .ok changed =>
        ((save folder path changed.write).1, (save folder path changed.write).2.map fun _ =>
          Plan.changeReport (Manner.ofFlags env flags) path name value) := by
  rw [run_eq, lookForSettings_eq hpath, Plan.ofInvocation_set hpath]
  cases Plan.loadSettings (folder.look path) >>= fun settings => settings.set name value <;> rfl

end Settings

theorem exists_loadSettings_content_iff {document : Text} :
    (∃ settings, Plan.loadSettings (.content document) = .ok settings) ↔
      ∃ settings, Settings.read document = .ok settings :=
  exists_bind_ok_iff _

/-- **With a file of settings that cannot be read, nothing can be done with the settings but to tell
their path**; with any that can be read, whatever its bound policy, everything can be done. -/
theorem settings_succeed_iff {action : SettingsAction} {document : Text}
    (hpath : env.settingsPath? = some path) (hlook : folder.look path = .content document)
    (hwritable : Writable folder path)
    (haccepts : ∀ name value, action = .set name value → Settings.Accepts name value)
    (hread : CommandLine.read words = .ok ⟨flags, some (.settings action)⟩) :
    (runLine env folder words).2.exitCode = 0 ↔
      action = .path ∨ ∃ settings, Settings.read document = .ok settings := by
  rw [(runLine_of_read env folder hread).2, exitCode_ofRun_eq_zero_iff,
    ← exists_loadSettings_content_iff]
  cases action with
  | path =>
    rw [run_path hpath]
    exact iff_of_true ⟨_, rfl⟩ (Or.inl rfl)
  | view =>
    rw [run_view hpath, hlook]
    cases Plan.loadSettings (.content document) <;> simp [Except.map]
  | set name value =>
    rw [run_set hpath, hlook]
    cases Plan.loadSettings (.content document) with
    | error failure => simp [bind, Except.bind]
    | ok settings =>
      obtain ⟨changed, hset⟩ :=
        (Settings.exists_set_eq_ok_iff settings name value).2 (haccepts name value rfl)
      simp [bind, Except.bind, hset, hwritable changed.write, Except.map]

theorem change_beside_unknown_policy :
    let env : Environment := ⟨some "cardq.toml", none, none, false⟩
    let action : SettingsAction := .set "output.json" "YES"
    let words : List Text := ["config", "set", "output.json", "YES"]
    let document : Text := "[search]\nnumeric_bounds = 'loose'\n"
    let folder := Folder.empty.add "cardq.toml" (.file document)
    env.settingsPath? = some "cardq.toml".toList ∧
      folder.look "cardq.toml" = .content document ∧ Writable folder "cardq.toml" ∧
      (∀ name value, action = .set name value → Settings.Accepts name value) ∧
      CommandLine.read words = .ok ⟨⟨false, false, false, false⟩, some (.settings action)⟩ ∧
      (runLine env folder words).2.exitCode = 0 := by
  intro env action words document folder
  have hlook : folder.look "cardq.toml" = .content document := by decide +kernel
  have hwritable : Writable folder "cardq.toml" := by decide +kernel
  have haccepts : ∀ name value, action = .set name value → Settings.Accepts name value := by
    intro name value heq
    obtain ⟨rfl, rfl⟩ := SettingsAction.set.inj heq
    exact Or.inl ⟨Or.inr rfl, true, by decide +kernel⟩
  have hread : CommandLine.read words =
      .ok ⟨⟨false, false, false, false⟩, some (.settings action)⟩ := by decide +kernel
  have hsettings : Settings.read document = .ok ⟨1, none, none, some "loose"⟩ := by decide +kernel
  exact ⟨rfl, hlook, hwritable, haccepts, hread,
    (settings_succeed_iff rfl hlook hwritable haccepts hread).2 (Or.inr ⟨_, hsettings⟩)⟩

/-- With a file that is not TOML, the settings can neither be shown nor changed. -/
theorem malformed_settings_not_shown :
    let env : Environment := ⟨some "cardq.toml", none, none, false⟩
    let folder := Folder.empty.add "cardq.toml" (.file "version = [")
    let exitCode := fun words => (runLine env folder words).2.exitCode
    Writable folder "cardq.toml" ∧ exitCode ["config", "path"] = 0 ∧ exitCode ["config"] = 5 ∧
      exitCode ["config", "show"] = 5 ∧ exitCode ["config", "set", "output.json", "yes"] = 5 := by
  decide +kernel

end CardCatalog.Session
