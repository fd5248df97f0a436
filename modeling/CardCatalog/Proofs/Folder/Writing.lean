import CardCatalog.Folder
import Mathlib.Data.List.Basic

/-!
# Files kept and written

What the changes to a folder leave as it was. Making folders on a path adds folders at most
(`addsFolders_makePath`) and so keeps every file (`AddsFolders.sameFiles`); once they are made,
making them again changes nothing (`makePath_again`). A file that is written is found at its path
(`look_put`), at which it can be written again (`target?_put`).
-/

namespace CardCatalog.Folder

variable {folder after later : Folder} {path : Text} {route : Route}

/-- The content of the file at a route. -/
def file? (folder : Folder) (route : Route) : Option Text :=
  match folder.entry? route with
  | some (.file content) => some content
  | _ => none

/-- The two have the same files with the same contents; their folders may differ. -/
def SameFiles (folder after : Folder) : Prop :=
  ∀ route, after.file? route = folder.file? route

/-! ## One entry -/

theorem lookup_filter_ne {other : Route} (h : other ≠ route) (entries : List (Route × Entry)) :
    (entries.filter (·.1 ≠ route)).lookup other = entries.lookup other := by
  induction entries with
  | nil => rfl
  | cons entry entries ih =>
    by_cases hentry : entry.1 = route
    · have hne : (other == entry.1) = false := by simpa [hentry] using h
      rw [List.filter_cons_of_neg (by simpa using hentry), ih, List.lookup_cons, hne]
    · rw [List.filter_cons_of_pos (by simpa using hentry), List.lookup_cons, List.lookup_cons,
        ih]

theorem entry?_put (hroute : route.all Path.leadsBack = false) (entry : Entry) (other : Route) :
    entry? (folder.put route entry) other =
      if other = route then some entry else folder.entry? other := by
  unfold entry? put
  by_cases h : other = route
  · subst h
    simp [hroute]
  · have hne : (other == route) = false := by simpa using h
    rw [if_neg h, List.lookup_cons, hne, lookup_filter_ne h]

theorem all_leadsBack_eq_false (h : folder.entry? route ≠ some .folder) :
    route.all Path.leadsBack = false := by
  unfold entry? at h
  split at h
  · exact absurd rfl h
  · next hback => simpa using hback

/-! ## Folders -/

/-- The second folder has the entries of the first, and besides them folders at most. -/
def AddsFolders (folder after : Folder) : Prop :=
  ∀ route, after.entry? route = folder.entry? route ∨
    folder.entry? route = none ∧ after.entry? route = some .folder

/-- All folders of the first are in the second. -/
def KeepsFolders (folder after : Folder) : Prop :=
  ∀ route, folder.entry? route = some .folder → after.entry? route = some .folder

theorem AddsFolders.keepsFolders (h : AddsFolders folder after) : KeepsFolders folder after := by
  intro route hroute
  rcases h route with heq | ⟨hnone, -⟩
  · rw [heq, hroute]
  · rw [hroute] at hnone
    cases hnone

theorem AddsFolders.trans (h : AddsFolders folder after) (hlater : AddsFolders after later) :
    AddsFolders folder later := by
  intro route
  rcases h route with heq | ⟨hnone, hfolder⟩
  · rw [← heq]
    exact hlater route
  · exact Or.inr ⟨hnone, hlater.keepsFolders route hfolder⟩

/-- Every file stays as it was, and there is no further one. -/
theorem AddsFolders.sameFiles (h : AddsFolders folder after) : SameFiles folder after := by
  intro route
  rw [file?, file?]
  rcases h route with heq | ⟨hnone, hfolder⟩
  · rw [heq]
  · rw [hnone, hfolder]

theorem addsFolders_put (h : folder.entry? route = none) :
    AddsFolders folder (folder.put route .folder) := by
  intro other
  have hroute : folder.entry? route ≠ some .folder := by simp [h]
  rw [entry?_put (all_leadsBack_eq_false hroute)]
  split
  · next heq => exact Or.inr ⟨heq ▸ h, rfl⟩
  · exact Or.inl rfl

theorem addsFolders_makeFolders (folder : Folder) (route : Route) (names : List Text) :
    AddsFolders folder (folder.makeFolders route names).1 := by
  induction names generalizing folder route with
  | nil => exact fun _ => Or.inl rfl
  | cons name names ih =>
    rw [makeFolders]
    split
    · next hnone =>
      split
      · exact fun _ => Or.inl rfl
      · exact (addsFolders_put hnone).trans (ih _ _)
    · exact ih _ _
    · exact fun _ => Or.inl rfl

/-- Folders that are all there need not be made. -/
theorem makeFolders_again {names : List Text} (h : (folder.makeFolders route names).2 = true)
    (hlater : KeepsFolders (folder.makeFolders route names).1 later) :
    later.makeFolders route names = (later, true) := by
  induction names generalizing folder route with
  | nil => rfl
  | cons name names ih =>
    rw [makeFolders] at h hlater
    cases hentry : folder.entry? (route.step name) with
    | none =>
      simp only [hentry] at h hlater
      split at h
      · cases h
      · next hlong =>
        rw [if_neg hlong] at hlater
        have hne : folder.entry? (route.step name) ≠ some .folder := by simp [hentry]
        have hmade : entry? (folder.put (route.step name) .folder) (route.step name) =
            some .folder := by
          rw [entry?_put (all_leadsBack_eq_false hne), if_pos rfl]
        have hnext := hlater _ ((addsFolders_makeFolders _ _ _).keepsFolders _ hmade)
        rw [makeFolders, hnext]
        exact ih h hlater
    | some entry =>
      cases entry with
      | file content => simp [hentry] at h
      | folder =>
        simp only [hentry] at h hlater
        have hnext := hlater _ ((addsFolders_makeFolders _ _ _).keepsFolders _ hentry)
        rw [makeFolders, hnext]
        exact ih h hlater

theorem addsFolders_makePath (folder : Folder) (path : Text) :
    AddsFolders folder (folder.makePath path).1 := by
  rw [makePath]
  split
  · exact fun _ => Or.inl rfl
  · exact addsFolders_makeFolders _ _ _

theorem makePath_again (h : (folder.makePath path).2 = true)
    (hlater : KeepsFolders (folder.makePath path).1 later) :
    later.makePath path = (later, true) := by
  rw [makePath] at h hlater ⊢
  split at h
  · cases h
  · next hlong =>
    rw [if_neg hlong] at hlater ⊢
    exact makeFolders_again h hlater

/-! ## A file -/

theorem follow?_append_singleton (names : List Text) (name : Text) :
    folder.follow? route (names ++ [name]) = (folder.follow? route names).bind fun home =>
      if folder.entry? home = some .folder then some (home.step name) else none := by
  induction names generalizing route with
  | nil => rfl
  | cons first names ih =>
    rw [List.cons_append, follow?, follow?]
    split
    · exact ih
    · rfl

theorem follow?_of_keepsFolders {names : List Text} {home : Route}
    (h : folder.follow? route names = some home) (hkeeps : KeepsFolders folder later) :
    later.follow? route names = some home := by
  induction names generalizing route with
  | nil => exact h
  | cons name names ih =>
    rw [follow?] at h ⊢
    split at h
    · next hfolder =>
      rw [if_pos (hkeeps _ hfolder)]
      exact ih h
    · cases h

/-- What makes a route the target of a path. -/
theorem target?_eq_some_iff :
    folder.target? path = some route ↔
      ∃ name home, (Path.names path).getLast? = some name ∧ Path.isFileName name = true ∧
        Path.isLong path = false ∧ folder.follow? [] (Path.names path).dropLast = some home ∧
        folder.entry? home = some .folder ∧ home.step name = route ∧
        folder.entry? route ≠ some .folder := by
  rw [target?]
  constructor
  · intro h
    obtain ⟨name, hname, h⟩ := Option.bind_eq_some_iff.1 h
    obtain ⟨home, hhome, h⟩ := Option.bind_eq_some_iff.1 h
    split at h
    · next hif =>
      obtain rfl := Option.some.inj h
      simp only [Bool.and_eq_true, Bool.not_eq_true', decide_eq_true_eq] at hif
      obtain ⟨⟨⟨hproper, hlong⟩, hfolder⟩, hfree⟩ := hif
      exact ⟨name, home, hname, hproper, hlong, hhome, hfolder, rfl, hfree⟩
    · cases h
  · rintro ⟨name, home, hname, hproper, hlong, hhome, hfolder, rfl, hfree⟩
    simp [hname, hproper, hlong, hhome, hfolder, hfree]

/-- A file stays the target of its path as long as the folders stay. -/
theorem target?_of_keepsFolders (h : folder.target? path = some route)
    (hkeeps : KeepsFolders folder later) (hfree : later.entry? route ≠ some .folder) :
    later.target? path = some route := by
  obtain ⟨name, home, hname, hproper, hlong, hhome, hfolder, hstep, -⟩ := target?_eq_some_iff.1 h
  exact target?_eq_some_iff.2 ⟨name, home, hname, hproper, hlong,
    follow?_of_keepsFolders hhome hkeeps, hkeeps _ hfolder, hstep, hfree⟩

/-- The path leads to its target. -/
theorem locate?_of_target? (h : folder.target? path = some route) :
    folder.locate? path = some route := by
  obtain ⟨name, home, hname, hproper, hlong, hhome, hfolder, hstep, -⟩ := target?_eq_some_iff.1 h
  have hne : path ≠ [] := by
    rintro rfl
    cases hname
    cases hproper
  have hnames : (Path.names path).dropLast ++ [name] = Path.names path :=
    List.dropLast_append_getLast? name hname
  rw [locate?, if_neg (by simp [hne, hlong]), ← hnames, follow?_append_singleton, hhome]
  simp [hfolder, hstep]

section Put

variable (h : folder.target? path = some route) (content : Text)

include h

theorem entry?_put_target (other : Route) :
    entry? (folder.put route (.file content)) other =
      if other = route then some (.file content) else folder.entry? other := by
  obtain ⟨-, -, -, -, -, -, -, -, hfree⟩ := target?_eq_some_iff.1 h
  exact entry?_put (all_leadsBack_eq_false hfree) _ other

theorem keepsFolders_put : KeepsFolders folder (folder.put route (.file content)) := by
  intro other hother
  obtain ⟨-, -, -, -, -, -, -, -, hfree⟩ := target?_eq_some_iff.1 h
  rw [entry?_put_target h, if_neg (by rintro rfl; exact hfree hother), hother]

/-- The path of a file leads to it as before once it is written. -/
theorem target?_put : (folder.put route (.file content)).target? path = some route :=
  target?_of_keepsFolders h (keepsFolders_put h content) (by simp [entry?_put_target h])

/-- What is written is found at its path. -/
theorem look_put : (folder.put route (.file content)).look path = .content content := by
  rw [look, locate?_of_target? (target?_put h content)]
  simp [entry?_put_target h]

end Put

end CardCatalog.Folder
