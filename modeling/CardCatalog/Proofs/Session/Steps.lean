import CardCatalog.Session
import Mathlib.Logic.Basic

/-!
# Runs step by step

The steps of a plan are taken one after the other. If they break off, it is at a file that cannot be
saved, and what the steps before it tell has been printed (`takeAll_cases`). No plan does anything
before it saves (`eq_nil_of_steps_eq`), so a run that fails has printed nothing
(`printed_of_perform_error`), and a run with a file to save prints its report only after the file is
saved (`run_eq`). A failure is then all that its command line prints (`output_eq`).
-/

namespace CardCatalog

namespace Report

variable (report : Report)

theorem nothing_append : nothing ++ report = report := rfl

theorem append_nothing : report ++ nothing = report :=
  congrArg₂ Report.mk (List.append_nil _) (List.append_nil _)

theorem append_assoc (second third : Report) :
    report ++ second ++ third = report ++ (second ++ third) :=
  congrArg₂ Report.mk (List.append_assoc _ _ _) (List.append_assoc _ _ _)

end Report

namespace Plan

/-- What the steps tell, one after the other. -/
def toldBy : List Step → Report
  | [] => .nothing
  | .save _ _ :: rest => toldBy rest
  | .tell report :: rest => report ++ toldBy rest

/-- **A plan does nothing before it saves.** -/
theorem eq_nil_of_steps_eq {plan : Plan} {before rest : List Step} {path content : Text}
    (h : plan.steps = before ++ .save path content :: rest) : before = [] := by
  cases before with
  | nil => rfl
  | cons step before =>
    -- behind the first step of a plan there is a report, if anything
    cases plan with
    | print report => simp [steps] at h
    | save => cases before <;> simp [steps] at h

end Plan

namespace Session

variable {env : Environment} {folder : Folder} {invocation : Invocation}

/-- **Steps that are taken** tell what they have to, or break off at a file that cannot be saved; then
what the steps before it tell has been printed, and nothing more. -/
theorem takeAll_cases (progress : Progress) (steps : List Plan.Step) :
    (∃ after, progress.takeAll steps = (after, .ok ()) ∧
        after.printed = progress.printed ++ Plan.toldBy steps) ∨
      ∃ after failure before path content rest,
        progress.takeAll steps = (after, .error failure) ∧
          steps = before ++ .save path content :: rest ∧
          after.printed = progress.printed ++ Plan.toldBy before := by
  induction steps generalizing progress with
  | nil => exact Or.inl ⟨progress, rfl, progress.printed.append_nothing.symm⟩
  | cons step rest ih =>
    cases step with
    | tell report =>
      rcases ih { progress with printed := progress.printed ++ report } with
        ⟨after, hall, hprinted⟩ |
          ⟨after, failure, before, path, content, later, hall, rfl, hprinted⟩
      · rw [Report.append_assoc] at hprinted
        exact Or.inl ⟨after, hall, hprinted⟩
      · rw [Report.append_assoc] at hprinted
        exact Or.inr ⟨after, failure, .tell report :: before, path, content, later, hall, rfl,
          hprinted⟩
    | save path content =>
      rcases hsave : save progress.folder path content with ⟨folder, failure | ⟨⟩⟩
      · refine Or.inr ⟨⟨folder, progress.printed⟩, failure, [], path, content, rest, ?_, rfl,
          progress.printed.append_nothing.symm⟩
        simp only [Progress.takeAll, Progress.take, hsave]
      · have hnext : progress.takeAll (.save path content :: rest) =
            Progress.takeAll ⟨folder, progress.printed⟩ rest := by
          simp only [Progress.takeAll, Progress.take, hsave]
        rw [hnext]
        rcases ih ⟨folder, progress.printed⟩ with
          hall | ⟨after, failure, before, other, written, later, hall, rfl, hprinted⟩
        · exact Or.inl hall
        · exact Or.inr ⟨after, failure, .save path content :: before, other, written, later, hall,
            rfl, hprinted⟩

/-- **A run that fails has printed nothing.** -/
theorem printed_of_perform_error {progress : Progress} {failure : Failure}
    (h : perform env folder invocation = (progress, .error failure)) :
    progress.printed = .nothing := by
  rw [perform] at h
  cases hplan : Plan.ofInvocation env (lookForSettings env folder) invocation with
  | error other =>
    rw [hplan] at h
    cases h
    rfl
  | ok plan =>
    rw [hplan] at h
    rcases takeAll_cases ⟨folder, .nothing⟩ plan.steps with
      ⟨after, hall, -⟩ | ⟨after, other, before, path, content, rest, hall, hsteps, hprinted⟩
    · cases h.symm.trans hall
    · cases h.symm.trans hall
      rw [hprinted, Plan.eq_nil_of_steps_eq hsteps]
      rfl

/-- **What a command line prints is what comes of it**: nothing is printed before a failure. -/
theorem output_eq (env : Environment) (folder : Folder) (words : List Text) :
    output env folder words = (runLine env folder words).2.printed := by
  rw [output, runLine]
  cases CommandLine.read words with
  | error halt => rfl
  | ok invocation =>
    simp only [run]
    rcases hperform : perform env folder invocation with ⟨progress, failure | ⟨⟩⟩
    · simp only [printed_of_perform_error hperform, Report.nothing_append]
      rfl
    · rfl

/-- A run saves the file first, if it has one to save, and then prints its report. -/
theorem run_eq (env : Environment) (folder : Folder) (invocation : Invocation) :
    run env folder invocation =
      match Plan.ofInvocation env (lookForSettings env folder) invocation with
      | .error failure => (folder, .error failure)
      | .ok (.print report) => (folder, .ok report)
      | .ok (.save path content report) =>
        ((save folder path content).1, (save folder path content).2.map fun _ => report) := by
  rw [run, perform]
  rcases Plan.ofInvocation env (lookForSettings env folder) invocation with
    failure | report | ⟨path, content, report⟩
  · rfl
  · rfl
  · rcases hsave : save folder path content with ⟨after, failure | ⟨⟩⟩ <;>
      simp only [Plan.steps, Progress.takeAll, Progress.take, hsave] <;> rfl

end Session

end CardCatalog
