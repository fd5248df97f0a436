import CardCatalog.Proofs.Folder.Writing
import CardCatalog.Proofs.Plan.Outcome
import CardCatalog.Proofs.Session.Steps

/-!
# Files of a session

What a command line does to the files. A file is saved whole or not at all (`save_cases`). Once it
is saved it is found at its path and can be saved again (`look_of_save`, `writable_of_save`), and all
other files are as before (`locate?_of_save`). A command line that fails changes no file and prints
nothing but its failure; another one changes at most the file of settings (`runLine_traceless`).
-/

namespace CardCatalog.Session

variable {env : Environment} {folder after : Folder} {path content : Text}

/-! ## Saving -/

/-- Whatever is saved at the path is written. -/
def Writable (folder : Folder) (path : Text) : Prop :=
  ∀ content, (save folder path content).2 = .ok ()

theorem save_cases (folder : Folder) (path content : Text) :
    (∃ failure, failure.kind = .settings ∧
        save folder path content = ((folder.makePath (Path.parent path)).1, .error failure)) ∨
      (folder.makePath (Path.parent path)).2 = true ∧
        ∃ route, (folder.makePath (Path.parent path)).1.target? path = some route ∧
          save folder path content =
            ((folder.makePath (Path.parent path)).1.put route (.file content), .ok ()) := by
  generalize hmake : folder.makePath (Path.parent path) = making
  obtain ⟨made, done⟩ := making
  rw [save, hmake]
  cases done with
  | false => exact Or.inl ⟨_, rfl, rfl⟩
  | true =>
    simp only [Folder.write?, if_true]
    generalize htarget : made.target? path = target
    cases target with
    | none => exact Or.inl ⟨_, rfl, rfl⟩
    | some route => exact Or.inr ⟨trivial, route, rfl, rfl⟩

/-- A file can be saved just if the folders for it can be made and it then has a place. -/
theorem writable_iff :
    Writable folder path ↔ (folder.makePath (Path.parent path)).2 = true ∧
      ((folder.makePath (Path.parent path)).1.target? path).isSome = true := by
  constructor
  · intro h
    rcases save_cases folder path [] with ⟨failure, -, hsave⟩ | ⟨hmade, route, htarget, -⟩
    · have hdone := h []
      rw [hsave] at hdone
      cases hdone
    · exact ⟨hmade, by rw [htarget, Option.isSome_some]⟩
  · rintro ⟨hmade, hplace⟩ content
    obtain ⟨route, htarget⟩ := Option.isSome_iff_exists.1 hplace
    simp [save, hmade, Folder.write?, htarget]

instance : Decidable (Writable folder path) := decidable_of_iff _ writable_iff.symm

/-- A file that cannot be saved leaves all files as they are. -/
theorem sameFiles_of_save_error {failure : Failure}
    (h : save folder path content = (after, .error failure)) :
    failure.kind = .settings ∧ folder.SameFiles after := by
  rcases save_cases folder path content with ⟨other, hkind, hsave⟩ | ⟨-, route, -, hsave⟩
  · rw [h] at hsave
    cases hsave
    exact ⟨hkind, (Folder.addsFolders_makePath folder _).sameFiles⟩
  · rw [h] at hsave
    cases hsave

section Saved

variable (h : save folder path content = (after, .ok ()))

include h

/-- The folders are made first, then the file is put at the target of its path. -/
theorem exists_target_of_save :
    ∃ made route, folder.makePath (Path.parent path) = (made, true) ∧
      made.target? path = some route ∧ after = made.put route (.file content) := by
  rcases save_cases folder path content with ⟨other, -, hsave⟩ | ⟨hmade, route, htarget, hsave⟩
  · rw [h] at hsave
    cases hsave
  · rw [h] at hsave
    cases hsave
    exact ⟨_, route, Prod.ext rfl hmade, htarget, rfl⟩

/-- What is saved is found at its path. -/
theorem look_of_save : after.look path = .content content := by
  obtain ⟨made, route, -, htarget, rfl⟩ := exists_target_of_save h
  exact Folder.look_put htarget content

/-- Only the file at the path is another one. -/
theorem locate?_of_save {route : Route} (hroute : after.file? route ≠ folder.file? route) :
    after.locate? path = some route := by
  obtain ⟨made, target, hmade, htarget, rfl⟩ := exists_target_of_save h
  by_cases heq : route = target
  · subst heq
    exact Folder.locate?_of_target? (Folder.target?_put htarget content)
  · refine absurd ?_ hroute
    have hadds := Folder.addsFolders_makePath folder (Path.parent path)
    rw [hmade] at hadds
    rw [← hadds.sameFiles, Folder.file?, Folder.file?, Folder.entry?_put_target htarget,
      if_neg heq]

/-- Where a file was saved, it can be saved again. -/
theorem writable_of_save : Writable after path := by
  obtain ⟨made, route, hmade, htarget, rfl⟩ := exists_target_of_save h
  have hdone : (folder.makePath (Path.parent path)).2 = true := by rw [hmade]
  have hkeeps : Folder.KeepsFolders (folder.makePath (Path.parent path)).1
      (made.put route (.file content)) := by
    rw [hmade]
    exact Folder.keepsFolders_put htarget content
  rw [writable_iff, Folder.makePath_again hdone hkeeps, Folder.target?_put htarget content]
  exact ⟨rfl, rfl⟩

end Saved

/-! ## One run -/

theorem lookForSettings_eq (hpath : env.settingsPath? = some path) (folder : Folder) :
    lookForSettings env folder = folder.look path := by
  rw [lookForSettings, hpath]

/-- A run that does not change a setting leaves the folder as it is; one that does saves the file of
settings. -/
theorem run_cases (env : Environment) (folder : Folder) (invocation : Invocation) :
    (∃ failure, failure.IsTold ∧ run env folder invocation = (folder, .error failure)) ∨
      (∃ report, run env folder invocation = (folder, .ok report)) ∨
        ∃ path content report name value, env.settingsPath? = some path ∧
          invocation.command = some (.settings (.set name value)) ∧
          run env folder invocation =
            ((save folder path content).1, (save folder path content).2.map fun _ => report) := by
  rw [run_eq]
  cases hplan : Plan.ofInvocation env (lookForSettings env folder) invocation with
  | error failure =>
    exact Or.inl ⟨failure, Plan.failsWith_ofInvocation _ _ _ _ hplan, rfl⟩
  | ok plan =>
    cases plan with
    | print report => exact Or.inr (Or.inl ⟨report, rfl⟩)
    | save path content report =>
      obtain ⟨hpath, name, value, hcommand⟩ := Plan.of_ofInvocation_eq_save hplan
      exact Or.inr (Or.inr ⟨path, content, report, name, value, hpath, hcommand, rfl⟩)

/-- **A failing command line leaves no trace**: it fails for the settings or the search, prints
nothing but its failure and changes no file. Any other changes no file but that of the settings, and
this one only by setting something. -/
theorem runLine_traceless (env : Environment) (folder : Folder) (words : List Text) :
    match runLine env folder words with
    | (after, .refused _) => after = folder
    | (after, .failed flags failure) =>
      (failure.kind = .settings ∨ failure.kind = .search) ∧
        (Outcome.failed flags failure).exitCode = 5 ∧
        (Outcome.failed flags failure).printed.out = [] ∧
        output env folder words = ⟨[], failureText flags failure⟩ ∧ folder.SameFiles after
    | (after, .done _) =>
      folder.SameFiles after ∨
        ∃ flags name value path,
          CommandLine.read words = .ok ⟨flags, some (.settings (.set name value))⟩ ∧
            env.settingsPath? = some path ∧
            ∀ route, after.file? route ≠ folder.file? route → after.locate? path = some route := by
  have houtput := output_eq env folder words
  rw [runLine] at houtput ⊢
  cases hread : CommandLine.read words with
  | error halt =>
    cases halt with
    | fault fault => rfl
    | version names => exact Or.inl fun _ => rfl
    | help => exact Or.inl fun _ => rfl
  | ok invocation =>
    rcases run_cases env folder invocation with
      ⟨failure, htold, hrun⟩ | ⟨report, hrun⟩ |
        ⟨path, content, report, name, value, hpath, hcommand, hrun⟩
    · simp only [hread, hrun, Outcome.ofRun] at houtput ⊢
      exact ⟨htold, htold.exitCode_eq, rfl, houtput, fun _ => rfl⟩
    · simp only [hrun, Outcome.ofRun]
      exact Or.inl fun _ => rfl
    · rcases hsave : save folder path content with ⟨after, failure | ⟨⟩⟩
      · obtain ⟨hkind, hfiles⟩ := sameFiles_of_save_error hsave
        have htold : failure.IsTold := Or.inl hkind
        simp only [hread, hrun, hsave, Except.map, Outcome.ofRun] at houtput ⊢
        exact ⟨htold, htold.exitCode_eq, rfl, houtput, hfiles⟩
      · simp only [hrun, hsave, Except.map, Outcome.ofRun]
        obtain ⟨flags, command⟩ := invocation
        obtain rfl : command = _ := hcommand
        exact Or.inr ⟨flags, name, value, path, rfl, hpath, fun _ => locate?_of_save hsave⟩

end CardCatalog.Session
