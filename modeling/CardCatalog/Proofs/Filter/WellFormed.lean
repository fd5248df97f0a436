import CardCatalog.Proofs.Filter.Groups
import CardCatalog.Proofs.Term.Writing

/-!
# Well-formed filters

Every key calls for one form of constraint (`Key.form`), and in a filter that is well formed no
constraint has another form, or asks for nothing: lists and the texts in them are not empty, ranges
have an end, and a format has a name (`Constraint.IsProper`).

A term that was read on a field has a value (`Term.hasValue_ofToken`). Terms that have one make a
well-formed filter (`isWellFormed_compile`), and so do those of every expression
(`isWellFormed_compile_ofText`).
-/

namespace CardCatalog

open Text

/-! ## Forms of constraints -/

/-- The forms that a constraint can have. -/
inductive Constraint.Form where
  | list
  | range
  | flag
  | legality
  deriving DecidableEq, Repr

/-- The form that constraints under the key have. -/
def Key.form : Key → Constraint.Form
  | .unique => .flag
  | .legality => .legality
  | .numeric _ => .range
  | _ => .list

/-- The constraint has the form, and asks for something. -/
inductive Constraint.IsProper : Constraint.Form → Constraint → Prop
  | list {values : List Text} : values ≠ [] → (∀ value ∈ values, value ≠ []) →
      IsProper .list (.list values)
  | range {range : Range} : range.isBounded = true → IsProper .range (.range range)
  | flag (value : Bool) : IsProper .flag (.flag value)
  | legality {format : Text} : format ≠ [] → IsProper .legality (.legality format ["legal"])

namespace Filter

/-- Every constraint has the form that its key calls for, and asks for something. -/
def IsWellFormed (filter : Filter) : Prop :=
  ∀ key, ∀ constraint ∈ filter.constraint key, constraint.IsProper key.form

namespace IsWellFormed

variable {filter : Filter} (h : filter.IsWellFormed)
include h

theorem isSome_list?_iff (key : Key) :
    (filter.list? key).isSome = true ↔
      key.form = .list ∧ (filter.constraint key).isSome = true := by
  rw [list?]
  cases hconstraint : filter.constraint key with
  | none => simp
  | some constraint =>
    have hproper := h key constraint hconstraint
    generalize key.form = form at hproper
    cases hproper <;> simp

theorem isSome_flag?_iff (key : Key) :
    (filter.flag? key).isSome = true ↔
      key.form = .flag ∧ (filter.constraint key).isSome = true := by
  rw [flag?]
  cases hconstraint : filter.constraint key with
  | none => simp
  | some constraint =>
    have hproper := h key constraint hconstraint
    generalize key.form = form at hproper
    cases hproper <;> simp

theorem isSome_range?_iff (which : Numeric) :
    (filter.range? which).isSome = true ↔ (filter.constraint (.numeric which)).isSome = true := by
  rw [range?]
  cases hconstraint : filter.constraint (.numeric which) with
  | none => simp
  | some constraint => cases h (.numeric which) constraint hconstraint; simp

end IsWellFormed

end Filter

/-! ## Terms with a value -/

namespace Term

/-- The term has a value if it has a field. -/
def HasValue (term : Term) : Prop := term.field ≠ none → term.value ≠ []

/-- **A term that was read on a field has a value.** -/
theorem hasValue_ofBody (body : Text) (negated : Bool) : (ofBody body negated).HasValue := by
  rcases ofBody_cases body negated with
    ⟨phrase, -, hterm⟩ | ⟨name, symbol, value, operator, -, hsplits, -, hterm⟩ | ⟨-, hterm⟩ <;>
    rw [hterm]
  · exact fun hfield => absurd rfl hfield
  · exact fun _ => (isValue_onField hsplits.value _ _ _).ne_nil
  · exact fun hfield => absurd rfl hfield

theorem hasValue_ofToken (token : Text) : (ofToken token).HasValue := by
  rcases ofToken_cases token with ⟨body, -, hterm, -⟩ | ⟨-, hterm, -⟩ <;> rw [hterm]
  · exact hasValue_ofBody body true
  · exact hasValue_ofBody token false

theorem hasValue_of_mem_ofText {expression : Text} {term : Term}
    (h : term ∈ (Query.ofText expression).terms) : term.HasValue := by
  obtain ⟨token, -, rfl⟩ := List.mem_map.1 h
  exact hasValue_ofToken token

theorem ne_nil_of_mem_keywordList {separator : Char} {value piece : Text}
    (h : piece ∈ keywordList separator value) : piece ≠ [] :=
  of_decide_eq_true (List.mem_filter.1 h).2

theorem ne_nil_of_mem_anyKeywords {term : Term} {keyword : Text} (h : keyword ∈ term.anyKeywords) :
    keyword ≠ [] := by
  rw [anyKeywords] at h
  split at h
  · exact ne_nil_of_mem_keywordList h
  · cases h

theorem ne_nil_of_mem_allKeywords {term : Term} (hvalue : term.value ≠ []) {keyword : Text}
    (h : keyword ∈ term.allKeywords) : keyword ≠ [] := by
  rw [allKeywords] at h
  split at h
  · cases h
  split at h
  · exact ne_nil_of_mem_keywordList h
  split at h
  · cases h
  · rw [List.mem_singleton.1 h]
    exact mt lower_eq_nil_iff.1 hvalue

end Term

namespace Filter

/-! ## What terms with a value put into a filter -/

variable {terms : List Term} (h : ∀ term ∈ terms, term.HasValue)

include h in
theorem value_ne_nil_of_target {term : Term} {field : Field} (hterm : term ∈ terms)
    (htarget : term.target = field) (hfield : field ≠ .text) : term.value ≠ [] := by
  refine h term hterm ?_
  rw [(Term.target_eq_iff hfield).1 htarget]
  exact Option.some_ne_none field

include h in
theorem ne_nil_of_mem_values {field : Field} (hfield : field ≠ .text) {value : Text}
    (hvalue : value ∈ values field terms) : value ≠ [] := by
  obtain ⟨term, hterm, htarget, -, rfl⟩ := mem_values_iff.1 hvalue
  exact value_ne_nil_of_target h hterm htarget hfield

theorem isProper_of_ofValues {values : List Text} (hvalues : ∀ value ∈ values, value ≠ [])
    {constraint : Constraint} (hconstraint : ofValues values = some constraint) :
    constraint.IsProper .list := by
  rw [ofValues] at hconstraint
  split at hconstraint
  · cases hconstraint
  · next hne =>
    cases hconstraint
    exact Constraint.IsProper.list hne hvalues

include h in
/-- **Under every key stands what the key calls for.** -/
theorem isProper_constraintOf (policy : BoundPolicy) {key : Key} {constraint : Constraint}
    (hconstraint : constraintOf policy terms key = some constraint) :
    constraint.IsProper key.form := by
  cases key with
  | keywords =>
    refine isProper_of_ofValues (fun keyword hkeyword => ?_) hconstraint
    obtain ⟨term, hterm, hmem⟩ := List.mem_flatMap.1 hkeyword
    obtain ⟨hterm, htarget⟩ := List.mem_filter.1 hterm
    exact Term.ne_nil_of_mem_allKeywords
      (value_ne_nil_of_target h hterm (of_decide_eq_true htarget) (by decide)) hmem
  | keywordsOr =>
    refine isProper_of_ofValues (fun keyword hkeyword => ?_) hconstraint
    obtain ⟨term, -, hmem⟩ := List.mem_flatMap.1 hkeyword
    exact Term.ne_nil_of_mem_anyKeywords hmem
  | unique =>
    obtain ⟨value, -, rfl⟩ := Option.map_eq_some_iff.1 hconstraint
    exact Constraint.IsProper.flag value
  | decks =>
    refine isProper_of_ofValues (fun large hlarge => ?_) hconstraint
    obtain ⟨value, hvalue, rfl⟩ := List.mem_map.1 hlarge
    exact mt upper_eq_nil_iff.1 (ne_nil_of_mem_values h (by decide) hvalue)
  | types =>
    refine isProper_of_ofValues (fun small hsmall => ?_) hconstraint
    obtain ⟨value, hvalue, rfl⟩ := List.mem_map.1 hsmall
    exact mt lower_eq_nil_iff.1 (ne_nil_of_mem_values h (by decide) hvalue)
  | legality =>
    obtain ⟨format, hformat, rfl⟩ := Option.map_eq_some_iff.1 hconstraint
    exact Constraint.IsProper.legality
      (ne_nil_of_mem_values h (by decide) (List.mem_of_mem_head? hformat))
  | numeric which =>
    simp only [constraintOf] at hconstraint
    split at hconstraint
    · next hbounded =>
      cases hconstraint
      exact Constraint.IsProper.range hbounded
    · cases hconstraint
  | _ =>
    exact isProper_of_ofValues (fun value => ne_nil_of_mem_values h (by decide)) hconstraint

include h in
theorem isWellFormed_compile (policy : BoundPolicy) (combinator : Combinator) :
    (compile policy ⟨combinator, terms⟩).IsWellFormed := by
  intro key constraint hconstraint
  rw [constraint_compile] at hconstraint
  exact isProper_constraintOf h policy hconstraint

/-! ## Expressions -/

theorem isTextual_target_iff (term : Term) :
    isTextual term.target = true ↔
      term.field = none ∨ term.field = some .text ∨ term.field = some .name := by
  rw [isTextual_iff, Term.target]
  cases term.field <;> simp

/-- **The filter of every expression is well formed.** So there is a list, a flag or a range to read
under a key that calls for one if there is any constraint. The text is empty just if no term looks
for a text that is not empty. -/
theorem isWellFormed_compile_ofText (policy : BoundPolicy) (expression : Text) :
    let query := Query.ofText expression
    let filter := compile policy query
    filter.IsWellFormed ∧
      (∀ key, (filter.list? key).isSome = true ↔
        key.form = .list ∧ (filter.constraint key).isSome = true) ∧
      (∀ key, (filter.flag? key).isSome = true ↔
        key.form = .flag ∧ (filter.constraint key).isSome = true) ∧
      (∀ which, (filter.range? which).isSome = true ↔
        (filter.constraint (.numeric which)).isSome = true) ∧
      (filter.text = [] ↔ ¬ ∃ term ∈ query.terms, term.negated = false ∧
        (term.field = none ∨ term.field = some .text ∨ term.field = some .name) ∧
          term.value ≠ []) := by
  intro query filter
  have hfilter : filter.IsWellFormed :=
    isWellFormed_compile (fun _ hterm => Term.hasValue_of_mem_ofText hterm) policy query.combinator
  refine ⟨hfilter, hfilter.isSome_list?_iff, hfilter.isSome_flag?_iff,
    hfilter.isSome_range?_iff, ?_⟩
  rw [text_compile_eq_nil_iff]
  simp only [isTextual_target_iff, not_exists, not_and, not_not]
  refine forall₂_congr fun term _ => ?_
  cases term.negated <;> simp

end Filter

end CardCatalog
