import CardCatalog.Proofs.Plan.Outcome

/-!
# What is told, and who hears it

Quiet and verbose say who hears what a command has to tell. They are looked at last: what there is
to tell (`Told`), which file is written first, and whether the command fails, are settled without
them (`settled_ofInvocation`). The answer is withheld from those who want to see nothing but failures,
but not if it is JSON (`ToldToAll`).
-/

namespace CardCatalog

/-- What a command has to tell. -/
structure Told where
  answer : Text
  /-- The answer is also for those who want to see nothing but failures. -/
  always : Bool
  notes : Text

namespace Told

/-- What is printed of it. -/
def report (told : Told) (verbose quiet : Bool) : Report where
  out := if quiet && !told.always then [] else told.answer
  err := if verbose then told.notes else []

theorem out_report {told : Told} (h : told.always = true) (verbose quiet : Bool) :
    (told.report verbose quiet).out = told.answer := by
  simp [report, h]

/-- Quiet hides the answer or leaves it. -/
theorem out_report_quiet (told : Told) (verbose quiet : Bool) :
    (told.report verbose true).out = (told.report verbose quiet).out ∨
      (told.report verbose true).out = [] := by
  cases halways : told.always with
  | true => exact Or.inl (by rw [out_report halways, out_report halways])
  | false => exact Or.inr (by simp [report, halways])

end Told

namespace Manner

/-- The manner with others to hear what is told. -/
def heard (manner : Manner) (verbose quiet : Bool) : Manner :=
  { manner with quiet := quiet, verbose := verbose }

/-- What there is to tell in this manner. -/
def told (manner : Manner) (json : Json) (table : Text) (lines : List Text) : Told where
  answer := if manner.json then json.pretty ++ ['\n'] else table
  always := manner.json
  notes := Text.ofLines lines

theorem report_told (manner : Manner) (json : Json) (table : Text) (lines : List Text)
    (verbose quiet : Bool) :
    (manner.told json table lines).report verbose quiet =
      ⟨(manner.heard verbose quiet).answer json table,
        (manner.heard verbose quiet).notes lines⟩ := by
  unfold Told.report told heard answer notes
  cases manner.json <;> cases quiet <;> rfl

theorem notes_nil (manner : Manner) : manner.notes [] = [] := by
  unfold notes
  split <;> rfl

theorem withSettings_heard (manner : Manner) (settings : Settings) (verbose quiet : Bool) :
    (manner.heard verbose quiet).withSettings settings =
      manner.withSettings settings >>= fun preferred => .ok (preferred.heard verbose quiet) := by
  unfold withSettings
  cases settings.bounds with
  | none => rfl
  | some name =>
    simp only
    cases Settings.readPolicy name <;> rfl

theorem json_of_withSettings {manner preferred : Manner} {settings : Settings}
    (h : manner.withSettings settings = .ok preferred) :
    preferred.json = (manner.json || settings.json == some true) := by
  unfold withSettings at h
  cases hbounds : settings.bounds with
  | none =>
    rw [hbounds] at h
    cases h
    rfl
  | some name =>
    rw [hbounds] at h
    obtain ⟨bounds, -, h⟩ := exists_bind_eq_ok h
    cases h
    rfl

end Manner

/-! ## Reports -/

/-- In every manner the report tells what does not depend on who hears it, and JSON to all. -/
def Tells (report : Manner → Report) : Prop :=
  ∀ manner : Manner, ∃ told : Told, (manner.json = true → told.always = true) ∧
    ∀ verbose quiet, report (manner.heard verbose quiet) = told.report verbose quiet

/-- A report tells in this way if it is an answer and notes that do not depend on who hears them. -/
theorem tells_of {report : Manner → Report} {json : Manner → Json} {table : Manner → Text}
    {lines : Manner → List Text}
    (hout : ∀ manner, (report manner).out = manner.answer (json manner) (table manner))
    (herr : ∀ manner, (report manner).err = manner.notes (lines manner))
    (hheard : ∀ manner verbose quiet, json (manner.heard verbose quiet) = json manner ∧
      table (manner.heard verbose quiet) = table manner ∧
        lines (manner.heard verbose quiet) = lines manner) : Tells report := by
  intro manner
  refine ⟨manner.told (json manner) (table manner) (lines manner), id, fun verbose quiet => ?_⟩
  obtain ⟨hjson, htable, hlines⟩ := hheard manner verbose quiet
  rw [Manner.report_told, ← hjson, ← htable, ← hlines, ← hout, ← herr]

namespace Plan

variable (env : Environment) (found : Found)

/-- The searches differ in what they tell only. -/
theorem exists_tells_eq_ofSearch {command : Command} (h : command.isSearch = true) :
    ∃ report, Tells report ∧ ∀ flags, ofInvocation env found ⟨flags, some command⟩ =
      ofSearch env found (Manner.ofFlags env flags) report := by
  cases command with
  | settings action => cases h
  | completions shell => cases h
  | compile tightest words =>
    exact ⟨Report.compile tightest words,
      tells_of (fun _ => rfl) (fun _ => rfl) fun _ _ _ => ⟨rfl, rfl, rfl⟩, fun _ => rfl⟩
  | parse words =>
    exact ⟨Report.parse words,
      tells_of (fun _ => rfl) (fun _ => rfl) fun _ _ _ => ⟨rfl, rfl, rfl⟩, fun _ => rfl⟩
  | tokens words =>
    exact ⟨Report.tokens words, tells_of (fun _ => rfl)
      (fun manner => manner.notes_nil.symm) fun _ _ _ => ⟨rfl, rfl, rfl⟩, fun _ => rfl⟩
  | check words =>
    exact ⟨Report.check words,
      tells_of (fun _ => rfl) (fun _ => rfl) fun _ _ _ => ⟨rfl, rfl, rfl⟩, fun _ => rfl⟩
  | fields =>
    exact ⟨Report.fields, tells_of (fun _ => rfl)
      (fun manner => manner.notes_nil.symm) fun _ _ _ => ⟨rfl, rfl, rfl⟩, fun _ => rfl⟩
  | guide =>
    exact ⟨Report.guide, tells_of (fun _ => rfl)
      (fun manner => manner.notes_nil.symm) fun _ _ _ => ⟨rfl, rfl, rfl⟩, fun _ => rfl⟩

/-! ## Plans -/

/-- The plan to tell this, once it is known who hears it, and to write a file first if there is
one. -/
def ofTold (file : Option (Text × Text)) (told : Told) (verbose quiet : Bool) : Plan :=
  match file with
  | none => .print (told.report verbose quiet)
  | some (path, content) => .save path content (told.report verbose quiet)

/-- All is settled before it is known who hears what: how the command fails, or which file is written
first and what there is to tell. -/
def Settled (P : Told → Prop) (plan : Bool → Bool → Except Failure Plan) : Prop :=
  (∃ failure, ∀ verbose quiet, plan verbose quiet = .error failure) ∨
    ∃ file told, P told ∧ ∀ verbose quiet, plan verbose quiet = .ok (ofTold file told verbose quiet)

section Settled

variable {P : Told → Prop}

theorem settled_ok {plan : Bool → Bool → Plan} (file : Option (Text × Text)) (told : Told)
    (htold : P told) (h : ∀ verbose quiet, plan verbose quiet = ofTold file told verbose quiet) :
    Settled P fun verbose quiet => .ok (plan verbose quiet) :=
  Or.inr ⟨file, told, htold, fun verbose quiet => congrArg Except.ok (h verbose quiet)⟩

/-- What is done first, whoever hears of it, settles nothing or everything. -/
theorem settled_bind {α : Type} {action : Except Failure α}
    {next : α → Bool → Bool → Except Failure Plan}
    (h : ∀ a, action = .ok a → Settled P (next a)) :
    Settled P fun verbose quiet => action >>= fun a => next a verbose quiet := by
  cases action with
  | error failure => exact Or.inl ⟨failure, fun _ _ => rfl⟩
  | ok a => exact h a rfl

end Settled

/-- A command is given, and its output is JSON, by its flags or by the settings of a search. -/
def PrintsJson (found : Found) (json : Bool) (command : Option Command) : Prop :=
  ∃ given, command = some given ∧ (json = true ∨ given.isSearch = true ∧
    ∃ document settings, found = .content document ∧ Settings.read document = .ok settings ∧
      settings.json = some true)

/-- JSON is for those as well who want to see nothing but failures. -/
def ToldToAll (found : Found) (json : Bool) (command : Option Command) (told : Told) : Prop :=
  PrintsJson found json command → told.always = true

theorem json_of_printsJson {found : Found} {json : Bool} {command : Command} {settings : Settings}
    {manner preferred : Manner} (hprints : PrintsJson found json (some command))
    (hload : loadSettings found = .ok settings) (hjson : manner.json = json)
    (hpreferred : manner.withSettings settings = .ok preferred) : preferred.json = true := by
  rw [Manner.json_of_withSettings hpreferred, hjson]
  obtain ⟨-, -, rfl | ⟨-, document, written, rfl, hread, hsetting⟩⟩ := hprints
  · rfl
  · rw [loadSettings, hread] at hload
    cases hload
    simp [Settings.migrate, hsetting]

theorem settled_search (manner : Manner) {report : Manner → Report} (htells : Tells report)
    (command : Command) :
    Settled (ToldToAll found manner.json (some command)) fun verbose quiet =>
      ofSearch env found (manner.heard verbose quiet) report := by
  refine settled_bind fun path _ => settled_bind fun settings hload => ?_
  simp only [Manner.withSettings_heard, bind_assoc]
  refine settled_bind fun preferred hpreferred => ?_
  obtain ⟨told, halways, htold⟩ := htells preferred
  refine settled_ok none told (fun hprints => ?_) fun verbose quiet =>
    congrArg print (htold verbose quiet)
  exact halways (json_of_printsJson hprints hload rfl hpreferred)

theorem settled_settings (manner : Manner) (action : SettingsAction) :
    Settled (ToldToAll found manner.json (some (.settings action))) fun verbose quiet =>
      ofSettingsAction env found (manner.heard verbose quiet) action := by
  have hprints {told : Told} (halways : manner.json = true → told.always = true) :
      ToldToAll found manner.json (some (.settings action)) told := by
    rintro ⟨_, ⟨⟩, hjson | ⟨⟨⟩, -⟩⟩
    exact halways hjson
  refine settled_bind fun path _ => ?_
  cases action with
  | path =>
    -- the path is told to all in any case
    refine settled_ok none ⟨(pathReport manner path found).out, true, []⟩ (fun _ => rfl) ?_
    intro verbose quiet
    cases verbose <;> cases quiet <;> rfl
  | view =>
    refine settled_bind fun settings _ => ?_
    have htells : Tells fun manner => viewReport manner path found settings :=
      tells_of (fun _ => rfl) (fun manner => manner.notes_nil.symm) fun _ _ _ => ⟨rfl, rfl, rfl⟩
    obtain ⟨told, halways, htold⟩ := htells manner
    exact settled_ok none told (hprints halways) fun verbose quiet =>
      congrArg print (htold verbose quiet)
  | set name value =>
    refine settled_bind fun settings _ => settled_bind fun changed _ => ?_
    have htells : Tells fun manner => changeReport manner path name value :=
      tells_of (fun _ => rfl) (fun _ => rfl) fun _ _ _ => ⟨rfl, rfl, rfl⟩
    obtain ⟨told, halways, htold⟩ := htells manner
    exact settled_ok (some (path, changed.write)) told (hprints halways) fun verbose quiet =>
      congrArg (save path changed.write) (htold verbose quiet)

/-- **Quiet and verbose settle nothing but who hears what.** Whether a command fails, and how, which
file it writes and with what content, and what it has to tell, does not depend on them. -/
theorem settled_ofInvocation (json noColor : Bool) (command : Option Command) :
    Settled (ToldToAll found json command) fun verbose quiet =>
      ofInvocation env found ⟨⟨verbose, quiet, json, noColor⟩, command⟩ := by
  let manner := Manner.ofFlags env ⟨false, false, json, noColor⟩
  cases command with
  | none =>
    refine settled_ok none ⟨greeting, false, []⟩ (fun ⟨_, h, _⟩ => nomatch h) ?_
    intro verbose quiet
    cases verbose <;> cases quiet <;> rfl
  | some command =>
    by_cases hsearch : command.isSearch = true
    · obtain ⟨report, htells, hplan⟩ := exists_tells_eq_ofSearch env found hsearch
      simp only [hplan]
      exact settled_search env found manner htells command
    · cases command with
      | settings action => exact settled_settings env found manner action
      | completions shell =>
        refine settled_ok none ⟨completions shell, true, []⟩ (fun _ => rfl) ?_
        intro verbose quiet
        cases verbose <;> cases quiet <;> rfl
      | _ => exact absurd rfl hsearch

end Plan

end CardCatalog
