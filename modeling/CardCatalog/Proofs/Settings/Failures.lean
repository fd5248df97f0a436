import CardCatalog.Settings

/-!
# How settings fail

Reading the settings fails with a failure of their own kind (`failsWith_read`), whatever the file
holds. What a change of one of them can be is said by `set_cases`: it fails just if the name is not
known or the value is none for it (`exists_set_eq_ok_iff`), and only a value for the bound policy
gives a failure of another kind.
-/

namespace CardCatalog

/-! ## Failures of actions in a row -/

section FailsWith

variable {α β : Type} {P : Failure → Prop}

/-- The action does not fail, or has this property. -/
def FailsWith (P : Failure → Prop) (action : Except Failure α) : Prop :=
  ∀ failure, action = .error failure → P failure

theorem failsWith_ok (a : α) : FailsWith P (.ok a) := by
  rintro failure ⟨⟩

theorem failsWith_error {failure : Failure} (h : P failure) :
    FailsWith P (.error failure : Except Failure α) := by
  rintro _ ⟨⟩
  exact h

theorem FailsWith.bind {action : Except Failure α} {next : α → Except Failure β}
    (h : FailsWith P action) (hnext : ∀ a, FailsWith P (next a)) :
    FailsWith P (action >>= next) := by
  cases action with
  | error failure => exact failsWith_error (h failure rfl)
  | ok a => exact hnext a

theorem FailsWith.imp {Q : Failure → Prop} {action : Except Failure α} (h : FailsWith P action)
    (himp : ∀ failure, P failure → Q failure) : FailsWith Q action :=
  fun failure hfailure => himp failure (h failure hfailure)

end FailsWith

theorem exists_bind_eq_ok {ε α β : Type} {action : Except ε α} {next : α → Except ε β} {b : β}
    (h : (action >>= next) = .ok b) : ∃ a, action = .ok a ∧ next a = .ok b := by
  cases action with
  | error failure => cases h
  | ok a => exact ⟨a, rfl, h⟩

theorem exists_bind_ok_iff {α β : Type} {action : Except Failure α} (f : α → β) :
    (∃ b, (action >>= fun a => .ok (f a)) = .ok b) ↔ ∃ a, action = .ok a := by
  constructor
  · rintro ⟨b, hb⟩
    obtain ⟨a, ha, -⟩ := exists_bind_eq_ok hb
    exact ⟨a, ha⟩
  · rintro ⟨a, rfl⟩
    exact ⟨f a, rfl⟩

namespace Settings

open Toml

/-! ## Reading -/

section Reading

variable (entries : Entries) (name : Text)

theorem failsWith_version? : FailsWith (·.kind = .settings) (version? entries) := by
  rw [version?]
  split
  · exact failsWith_ok _
  · split
    · exact failsWith_ok _
    · exact failsWith_error rfl
  · exact failsWith_error rfl

theorem failsWith_section? (settings : List Text) :
    FailsWith (·.kind = .settings) (section? entries name settings) := by
  rw [section?.eq_def]
  split
  · exact failsWith_ok _
  · exact failsWith_ok _
  · exact failsWith_ok _
  · split
    · exact failsWith_ok _
    · exact failsWith_error rfl
  · exact failsWith_error rfl

theorem failsWith_bool? : FailsWith (·.kind = .settings) (bool? entries name) := by
  rw [bool?]
  split
  · exact failsWith_ok _
  · exact failsWith_ok _
  · exact failsWith_error rfl

theorem failsWith_text? : FailsWith (·.kind = .settings) (text? entries name) := by
  rw [text?]
  split
  · exact failsWith_ok _
  · exact failsWith_ok _
  · exact failsWith_error rfl

theorem failsWith_ofEntries : FailsWith (·.kind = .settings) (ofEntries entries) :=
  (failsWith_version? _).bind fun _ => (failsWith_section? _ _ _).bind fun _ =>
    (failsWith_section? _ _ _).bind fun _ => (failsWith_bool? _ _).bind fun _ =>
      (failsWith_bool? _ _).bind fun _ => (failsWith_text? _ _).bind fun _ => failsWith_ok _

end Reading

theorem failsWith_read (document : Text) : FailsWith (·.kind = .settings) (read document) := by
  rw [read]
  split
  · exact failsWith_ofEntries _
  · exact failsWith_error rfl

/-! ## Changing -/

/-- The setting with this name can have this value. -/
def Accepts (name value : Text) : Prop :=
  (name = "output.color".toList ∨ name = "output.json".toList) ∧
      (∃ truth, readBool value = .ok truth) ∨
    name = "search.numeric_bounds".toList ∧ ∃ policy, BoundPolicy.ofName value = .ok policy

theorem failsWith_readBool (written : Text) :
    FailsWith (·.kind = .settings) (readBool written) := by
  rw [readBool]
  split
  · exact failsWith_ok _
  · exact failsWith_error rfl

theorem failsWith_readPolicy (written : Text) :
    FailsWith (·.kind = .search) (readPolicy written) := by
  rw [readPolicy]
  split
  · exact failsWith_ok _
  · exact failsWith_error rfl

theorem exists_readPolicy_eq_ok_iff {written : Text} :
    (∃ policy, readPolicy written = .ok policy) ↔
      ∃ policy, BoundPolicy.ofName written = .ok policy := by
  rw [readPolicy]
  cases BoundPolicy.ofName written <;> simp

/-- A change is one of a single setting, or the name is not known. -/
theorem set_cases (settings : Settings) (name value : Text) :
    name = "output.color".toList ∧ settings.set name value =
        (readBool value >>= fun truth => .ok { settings with color := some truth }) ∨
      name = "output.json".toList ∧ settings.set name value =
        (readBool value >>= fun truth => .ok { settings with json := some truth }) ∨
      name = "search.numeric_bounds".toList ∧ settings.set name value =
        (readPolicy value >>= fun policy => .ok { settings with bounds := some policy.name }) ∨
      (name ≠ "output.color".toList ∧ name ≠ "output.json".toList ∧
          name ≠ "search.numeric_bounds".toList) ∧
        settings.set name value = .error (.unknownSetting name) := by
  rw [set]
  by_cases hcolor : name = "output.color".toList
  · rw [if_pos hcolor]
    exact Or.inl ⟨hcolor, rfl⟩
  · rw [if_neg hcolor]
    by_cases hjson : name = "output.json".toList
    · rw [if_pos hjson]
      exact Or.inr (Or.inl ⟨hjson, rfl⟩)
    · rw [if_neg hjson]
      by_cases hbounds : name = "search.numeric_bounds".toList
      · rw [if_pos hbounds]
        exact Or.inr (Or.inr (Or.inl ⟨hbounds, rfl⟩))
      · rw [if_neg hbounds]
        exact Or.inr (Or.inr (Or.inr ⟨⟨hcolor, hjson, hbounds⟩, rfl⟩))

theorem failsWith_set (settings : Settings) (name value : Text) :
    FailsWith (fun failure => failure.kind = .settings ∨ failure.kind = .search)
      (settings.set name value) := by
  rcases set_cases settings name value with ⟨-, h⟩ | ⟨-, h⟩ | ⟨-, h⟩ | ⟨-, h⟩ <;> rw [h]
  · exact ((failsWith_readBool value).imp fun _ => Or.inl).bind fun _ => failsWith_ok _
  · exact ((failsWith_readBool value).imp fun _ => Or.inl).bind fun _ => failsWith_ok _
  · exact ((failsWith_readPolicy value).imp fun _ => Or.inr).bind fun _ => failsWith_ok _
  · exact failsWith_error (Or.inl rfl)

/-- **A setting is changed just if the name is one of a setting and the value one for it.** -/
theorem exists_set_eq_ok_iff (settings : Settings) (name value : Text) :
    (∃ changed, settings.set name value = .ok changed) ↔ Accepts name value := by
  rw [Accepts, ← exists_readPolicy_eq_ok_iff]
  rcases set_cases settings name value with
    ⟨rfl, h⟩ | ⟨rfl, h⟩ | ⟨rfl, h⟩ | ⟨⟨hcolor, hjson, hbounds⟩, h⟩
  · rw [h, exists_bind_ok_iff]
    simp
  · rw [h, exists_bind_ok_iff]
    simp
  · rw [h, exists_bind_ok_iff]
    simp
  · simp only [h, hcolor, hjson, hbounds]
    simp

end Settings

end CardCatalog
