import CardCatalog.Proofs.CommandLine.AddedSwitch
import CardCatalog.Proofs.Plan.Told
import CardCatalog.Proofs.Session.Saving

/-!
# Quiet and verbose sessions

Quiet and verbose change what is seen of a command, and nothing that it does
(`verbosity_changes_nothing_done`). Verbose changes the second output only (`heardMore_of_adds`).
Quiet changes the first output only, and takes all of it or nothing; JSON is left alone
(`heardLess_of_adds`).
-/

namespace CardCatalog.Session

open CommandLine (Adds Plain Accepted spellings)

/-! ## Runs -/

/-- What is left behind and what there is to tell is the same whoever hears it. -/
theorem exists_run_eq (env : Environment) (folder : Folder) (json noColor : Bool)
    (command : Option Command) :
    ∃ (after : Folder) (result : Except Failure Told), (∀ verbose quiet,
        run env folder ⟨⟨verbose, quiet, json, noColor⟩, command⟩ =
          (after, result.map (·.report verbose quiet))) ∧
      ∀ told, result = .ok told →
        Plan.ToldToAll (lookForSettings env folder) json command told := by
  simp only [run_eq]
  rcases Plan.settled_ofInvocation env (lookForSettings env folder) json noColor command with
    ⟨failure, hplan⟩ | ⟨file, told, htold, hplan⟩
  · refine ⟨folder, .error failure, fun verbose quiet => ?_, fun told h => ?_⟩
    · simp only [hplan]
      rfl
    · cases h
  · simp only [hplan]
    cases file with
    | none =>
      refine ⟨folder, .ok told, fun _ _ => rfl, fun other h => ?_⟩
      cases h
      exact htold
    | some file =>
      simp only [Plan.ofTold]
      generalize save folder file.1 file.2 = saved
      obtain ⟨after, result⟩ := saved
      refine ⟨after, result.map fun _ => told, fun verbose quiet => ?_, fun other h => ?_⟩
      · cases result <;> rfl
      · cases result with
        | error failure => cases h
        | ok _ =>
          cases h
          exact htold

/-! ## Command lines -/

variable (env : Environment) (folder : Folder) {words louder quieter : List Text}

/-- Whoever hears what a command line tells, it is the same. -/
theorem exists_runLine_eq {json noColor : Bool} {command : Option Command} :
    ∃ (after : Folder) (result : Except Failure Told), (∀ verbose quiet words,
        CommandLine.read words = .ok ⟨⟨verbose, quiet, json, noColor⟩, command⟩ →
          runLine env folder words = (after,
            .ofRun ⟨verbose, quiet, json, noColor⟩ (result.map (·.report verbose quiet)))) ∧
      ∀ told, result = .ok told →
        Plan.ToldToAll (lookForSettings env folder) json command told := by
  obtain ⟨after, result, hrun, hall⟩ := exists_run_eq env folder json noColor command
  refine ⟨after, result, fun verbose quiet words hread => ?_, hall⟩
  rw [runLine, hread]
  simp only [hrun]

theorem runLine_of_error {halt : Halt} (h : CommandLine.read words = .error halt) :
    runLine env folder words = (folder, .ofHalt halt) := by
  rw [runLine, h]

/-- The second line does what the first one does, and may only tell more on the second output. -/
structure HeardMore (before after : Folder × Outcome) : Prop where
  files : after.1 = before.1
  exitCode : after.2.exitCode = before.2.exitCode
  out : after.2.printed.out = before.2.printed.out

/-- The second line does what the first one does, and may only have nothing on the first output. -/
structure HeardLess (before after : Folder × Outcome) : Prop where
  files : after.1 = before.1
  exitCode : after.2.exitCode = before.2.exitCode
  err : after.2.printed.err = before.2.printed.err
  out : after.2.printed.out = before.2.printed.out ∨ after.2.printed.out = []

theorem heardMore_of_adds (h : Adds .verbose words louder) :
    HeardMore (runLine env folder words) (runLine env folder louder) := by
  cases hread : CommandLine.read words with
  | error halt =>
    rw [Adds, hread] at h
    rw [runLine_of_error env folder hread, runLine_of_error env folder h]
    exact ⟨rfl, rfl, rfl⟩
  | ok invocation =>
    obtain ⟨⟨verbose, quiet, json, noColor⟩, command⟩ := invocation
    obtain ⟨after, result, hline, -⟩ := exists_runLine_eq env folder
    rw [Adds, hread] at h
    rw [hline _ _ _ hread, hline _ _ _ h]
    cases result <;> exact ⟨rfl, rfl, rfl⟩

theorem heardLess_of_adds (h : Adds .quiet words quieter) :
    HeardLess (runLine env folder words) (runLine env folder quieter) ∧
      ∀ invocation, CommandLine.read words = .ok invocation →
        Plan.PrintsJson (lookForSettings env folder) invocation.flags.json invocation.command →
          (runLine env folder quieter).2.printed.out =
            (runLine env folder words).2.printed.out := by
  cases hread : CommandLine.read words with
  | error halt =>
    rw [Adds, hread] at h
    rw [runLine_of_error env folder hread, runLine_of_error env folder h]
    exact ⟨⟨rfl, rfl, rfl, Or.inl rfl⟩, fun _ => nofun⟩
  | ok invocation =>
    obtain ⟨⟨verbose, quiet, json, noColor⟩, command⟩ := invocation
    obtain ⟨after, result, hline, hall⟩ := exists_runLine_eq env folder
    rw [Adds, hread] at h
    rw [hline _ _ _ hread, hline _ _ _ h]
    cases result with
    | error failure => exact ⟨⟨rfl, rfl, rfl, Or.inl rfl⟩, fun _ _ _ => rfl⟩
    | ok told =>
      refine ⟨⟨rfl, rfl, rfl, told.out_report_quiet verbose quiet⟩, fun other hother hprints => ?_⟩
      cases hother
      have halways := hall told rfl hprints
      exact (Told.out_report halways verbose true).trans
        (Told.out_report halways verbose quiet).symm

/-- **Verbosity never changes what a command does.** Quiet and verbose can be put in front of a line
that has neither. Whatever line has verbose besides, its files, its exit code and its first output
are the same. Whatever line has quiet besides, its files, its exit code and its second output are the
same, and its first output is the same or empty; it is the same if a command is given and its output
is JSON. -/
theorem verbosity_changes_nothing_done
    (hplain : ∀ invocation, CommandLine.read words = .ok invocation → Plain invocation) :
    (∀ switch, switch = .verbose ∨ switch = .quiet → ∀ word ∈ spellings switch,
        (∃ invocation, CommandLine.read words = .ok invocation) ∨ Accepted (word :: words) →
          Adds switch words (word :: words)) ∧
      (∀ louder, Adds .verbose words louder →
        HeardMore (runLine env folder words) (runLine env folder louder)) ∧
      ∀ quieter, Adds .quiet words quieter →
        HeardLess (runLine env folder words) (runLine env folder quieter) ∧
        ∀ invocation, CommandLine.read words = .ok invocation →
          Plan.PrintsJson (lookForSettings env folder) invocation.flags.json invocation.command →
            (runLine env folder quieter).2.printed.out =
              (runLine env folder words).2.printed.out :=
  ⟨fun _ hswitch _ hword haccepted => CommandLine.adds_cons hswitch hword hplain haccepted,
    fun _ h => heardMore_of_adds env folder h, fun _ h => heardLess_of_adds env folder h⟩

/-- A quiet search still answers in JSON if the settings have it so. -/
theorem quiet_search_answers_in_json :
    let env : Environment := ⟨some "cardq.toml", none, none, false⟩
    let document : Text := "[output]\njson = true\n"
    let folder := Folder.empty.add "cardq.toml" (.file document)
    let words : List Text := ["parse", "force>2"]
    (∀ invocation, CommandLine.read words = .ok invocation → Plain invocation) ∧
      (runLine env folder ("-v" :: words)).2.printed.out =
        (runLine env folder words).2.printed.out ∧
      (runLine env folder ("--quiet" :: words)).2.printed.out =
        (runLine env folder words).2.printed.out := by
  intro env document folder words
  have hread : CommandLine.read words =
      .ok ⟨⟨false, false, false, false⟩, some (.parse ["force>2"])⟩ := by decide +kernel
  have hplain : ∀ invocation, CommandLine.read words = .ok invocation → Plain invocation := by
    intro invocation h
    rw [hread] at h
    cases h
    exact ⟨rfl, rfl⟩
  have hlook : lookForSettings env folder = .content document := by decide +kernel
  have hsettings : Settings.read document = .ok ⟨1, none, some true, none⟩ := by decide +kernel
  obtain ⟨hadds, hverbose, hquiet⟩ := verbosity_changes_nothing_done env folder hplain
  have hlouder : Adds .verbose words ("-v" :: words) :=
    hadds .verbose (Or.inl rfl) "-v" (by decide) (Or.inl ⟨_, hread⟩)
  have hquieter : Adds .quiet words ("--quiet" :: words) :=
    hadds .quiet (Or.inr rfl) "--quiet" (by decide) (Or.inl ⟨_, hread⟩)
  refine ⟨hplain, (hverbose _ hlouder).out, (hquiet _ hquieter).2 _ hread ?_⟩
  exact ⟨_, rfl, Or.inr ⟨rfl, document, _, hlook, hsettings, rfl⟩⟩

end CardCatalog.Session
