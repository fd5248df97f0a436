import CardCatalog.Proofs.Filter.Negation
import CardCatalog.Proofs.Text.Pieces

/-!
# Diagnostics of one term

A query of one term should be reported just if its filter restricts nothing. Term by term this
holds but for one kind of value: a keyword list that has both separators and no keyword is
reported as empty, while its filter asks for the other separator as a keyword
(`ofQuery_eq_nil_iff_restricts_iff`).
-/

namespace CardCatalog

open Text

namespace Term

/-! ## Keyword lists -/

theorem keywordList_eq_nil_iff {separator : Char} {value : Text} :
    keywordList separator value = [] ↔ ∀ c ∈ value, c = separator ∨ isBlank c = true := by
  have hpieces : (∀ piece ∈ pieces (· == separator) value, trim piece = []) ↔
      ∀ c ∈ value, (c == separator) = true ∨ isBlank c = true := forall_trim_pieces_iff
  simp only [beq_iff_eq] at hpieces
  rw [← hpieces, keywordList, List.filter_eq_nil_iff]
  simp

theorem listsNothing_iff {value : Text} :
    listsNothing value = true ↔ ('|' ∈ value ∨ '&' ∈ value) ∧
      ∀ c ∈ value, c = '|' ∨ c = '&' ∨ isBlank c = true := by
  have hsep : ∀ c, isKeywordSeparator c = true ↔ c = '|' ∨ c = '&' := fun c => by
    simp [isKeywordSeparator]
  have hall : ((pieces isKeywordSeparator value).all fun piece => (trim piece).isEmpty) = true ↔
      ∀ c ∈ value, c = '|' ∨ c = '&' ∨ isBlank c = true := by
    simp only [List.all_eq_true, List.isEmpty_iff, forall_trim_pieces_iff, hsep, or_assoc]
  have hany : value.any isKeywordSeparator = true ↔ '|' ∈ value ∨ '&' ∈ value := by
    simp only [List.any_eq_true, hsep]
    constructor
    · rintro ⟨c, hc, rfl | rfl⟩
      · exact Or.inl hc
      · exact Or.inr hc
    · rintro (hc | hc)
      · exact ⟨'|', hc, Or.inl rfl⟩
      · exact ⟨'&', hc, Or.inr rfl⟩
  rw [listsNothing, Bool.and_eq_true, hany, hall]

/-- The separators of keyword lists stand in the small form where they stand in the value. -/
theorem mem_keyword_iff {term : Term} {separator : Char}
    (hsep : separator = '|' ∨ separator = '&') :
    separator ∈ term.keyword ↔ separator ∈ term.value := by
  refine (lowered_lower term.value).mem_iff_of_isMark ?_
  rcases hsep with rfl | rfl <;> decide

theorem keywordList_keyword_eq_nil_iff {term : Term} {separator : Char}
    (hsep : separator = '|' ∨ separator = '&') :
    keywordList separator term.keyword = [] ↔
      ∀ c ∈ term.value, c = separator ∨ isBlank c = true := by
  rw [keywordList_eq_nil_iff]
  refine (lowered_lower term.value).forall_iff_of_isMark fun c hc => ?_
  rcases hc with rfl | hc
  · rcases hsep with rfl | rfl <;> decide
  · exact isMark_of_isBlank hc

/-- A list is not the word for the flag. -/
theorem keyword_ne_uniqueWord_of_mem {term : Term} {separator : Char}
    (hsep : separator = '|' ∨ separator = '&') (hmem : separator ∈ term.value) :
    term.keyword ≠ uniqueWord := by
  intro heq
  have hword : separator ∈ uniqueWord := heq ▸ (mem_keyword_iff hsep).2 hmem
  rcases hsep with rfl | rfl <;> revert hword <;> decide

/-- The term asks for nothing among flags and keywords. -/
def AsksNothing (term : Term) : Prop :=
  term.allKeywords = [] ∧ term.anyKeywords = [] ∧ term.keyword ≠ uniqueWord

theorem asksNothing_of_negated {term : Term} (h : term.negated = true) :
    term.AsksNothing ↔ term.keyword ≠ uniqueWord := by
  simp [AsksNothing, allKeywords_of_negated h, anyKeywords_of_negated h]

/-- A list with `|` asks for nothing just if there is nothing else in it; a list with `&` only has
to have no other character. -/
theorem asksNothing_of_not_negated {term : Term} (h : term.negated = false) :
    term.AsksNothing ↔
      '|' ∈ term.value ∧ (∀ c ∈ term.value, c = '|' ∨ isBlank c = true) ∨
        '|' ∉ term.value ∧ '&' ∈ term.value ∧
          ∀ c ∈ term.value, c = '&' ∨ isBlank c = true := by
  rw [AsksNothing, allKeywords, anyKeywords, h]
  by_cases hbar : '|' ∈ term.value
  · have hbar' := (mem_keyword_iff (Or.inl rfl)).2 hbar
    have hne := keyword_ne_uniqueWord_of_mem (Or.inl rfl) hbar
    simp [hbar, hbar', hne, keywordList_keyword_eq_nil_iff (Or.inl rfl)]
  · have hbar' := mt (mem_keyword_iff (Or.inl rfl)).1 hbar
    by_cases hamp : '&' ∈ term.value
    · have hamp' := (mem_keyword_iff (Or.inr rfl)).2 hamp
      have hne := keyword_ne_uniqueWord_of_mem (Or.inr rfl) hamp
      simp [hbar, hbar', hamp, hamp', hne, keywordList_keyword_eq_nil_iff (Or.inr rfl)]
    · have hamp' := mt (mem_keyword_iff (Or.inr rfl)).1 hamp
      by_cases hword : term.keyword = uniqueWord <;> simp [hbar, hbar', hamp, hamp', hword]

/-- The term lists both separators of keywords, and nothing else. -/
structure ListsSeparators (term : Term) : Prop where
  field : term.field = some .is
  negated : term.negated = false
  bar : '|' ∈ term.value
  ampersand : '&' ∈ term.value
  nothing_else : ∀ c ∈ term.value, c = '|' ∨ c = '&' ∨ isBlank c = true

/-- Split at `|` alone, the other separator is a keyword. -/
theorem ListsSeparators.not_asksNothing {term : Term} (h : term.ListsSeparators) :
    ¬ term.AsksNothing := by
  rw [asksNothing_of_not_negated h.negated]
  rintro (⟨-, hall⟩ | ⟨hbar, -⟩)
  · have := hall '&' h.ampersand
    revert this
    decide
  · exact hbar h.bar

theorem listsNothing_iff_asksNothing_or {term : Term} (hfield : term.field = some .is)
    (hnegated : term.negated = false) :
    listsNothing term.value = true ↔ term.AsksNothing ∨ term.ListsSeparators := by
  rw [listsNothing_iff, asksNothing_of_not_negated hnegated]
  constructor
  · rintro ⟨hsep, hall⟩
    by_cases hbar : '|' ∈ term.value <;> by_cases hamp : '&' ∈ term.value
    · exact Or.inr ⟨hfield, hnegated, hbar, hamp, hall⟩
    · refine Or.inl (Or.inl ⟨hbar, fun c hc => ?_⟩)
      rcases hall c hc with h | rfl | h
      · exact Or.inl h
      · exact absurd hc hamp
      · exact Or.inr h
    · refine Or.inl (Or.inr ⟨hbar, hamp, fun c hc => ?_⟩)
      rcases hall c hc with rfl | h
      · exact absurd hc hbar
      · exact h
    · exact absurd hsep (not_or.2 ⟨hbar, hamp⟩)
  · rintro ((⟨hbar, hall⟩ | ⟨-, hamp, hall⟩) | h)
    · exact ⟨Or.inl hbar, fun c hc => (hall c hc).imp_right Or.inr⟩
    · exact ⟨Or.inr hamp, fun c hc => Or.inr (hall c hc)⟩
    · exact ⟨Or.inl h.bar, h.nothing_else⟩

/-- The word for the flag is no list. -/
theorem listsNothing_of_keyword_eq {term : Term} (h : term.keyword = uniqueWord) :
    listsNothing term.value = false := by
  rw [Bool.eq_false_iff]
  intro hlists
  rcases (listsNothing_iff.1 hlists).1 with hbar | hamp
  · exact keyword_ne_uniqueWord_of_mem (Or.inl rfl) hbar h
  · exact keyword_ne_uniqueWord_of_mem (Or.inr rfl) hamp h

/-- The term puts nothing into a filter. -/
def IsIdle (term : Term) : Prop :=
  match term.target with
  | .text | .name => term.negated = true ∨ term.value = []
  | .is => term.AsksNothing
  | .numeric _ => term.range? = none
  | .other _ => True
  | _ => term.negated = true

end Term

namespace Filter

/-! ## The filter of one term -/

theorem text_singleton_eq_nil_iff (policy : BoundPolicy) (combinator : Combinator) (term : Term) :
    (compile policy ⟨combinator, [term]⟩).text = [] ↔
      (isTextual term.target = true → term.negated = true ∨ term.value = []) := by
  rw [text_compile_eq_nil_iff, List.forall_mem_singleton]

/-- The range of one term, field by field. -/
theorem isBounded_range_singleton (policy : BoundPolicy) (which : Numeric) (term : Term) :
    (range policy which [term]).isBounded = false ↔
      (term.target = .numeric which → term.range? = none) := by
  rw [range_singleton]
  by_cases htarget : term.target = .numeric which
  · rw [if_pos htarget, isBounded_range?_iff]
    exact ⟨fun h _ => h, fun h => h htarget⟩
  · rw [if_neg htarget]
    exact ⟨fun _ h => absurd h htarget, fun _ => rfl⟩

/-- **The filter of one term restricts nothing just if the term is idle.** -/
theorem isEmpty_compile_singleton (policy : BoundPolicy) (combinator : Combinator) (term : Term) :
    (compile policy ⟨combinator, [term]⟩).isEmpty = true ↔ term.IsIdle := by
  have hflag : (uniqueFlag? [term]).map Constraint.flag = none ↔
      (term.target = .is → term.keyword ≠ Term.uniqueWord) := by
    rw [Option.map_eq_none_iff, uniqueFlag?_singleton_eq_none_iff]
  have hrange : ∀ which, constraintOf policy [term] (.numeric which) = none ↔
      (term.target = .numeric which → term.range? = none) := fun which => by
    rw [← isBounded_range_singleton policy]
    simp [constraintOf]
  rw [isEmpty_iff, text_singleton_eq_nil_iff]
  simp only [constraint_compile, Key.forall_iff, hrange]
  simp only [constraintOf, hflag, ofValues_eq_none_iff, List.map_eq_nil_iff, values_singleton,
    onField_singleton, Term.IsIdle]
  cases htarget : term.target with
  | is => simp [isTextual, Term.AsksNothing]
  | _ => simp [isTextual]

end Filter

namespace Diagnostic

/-! ## The diagnostics of one term -/

theorem ofQuery_singleton_eq_nil_iff (combinator : Combinator) (term : Term) :
    ofQuery ⟨combinator, [term]⟩ = [] ↔
      term.isIgnoredNegation = false ∧ ofTerm? ⟨[], false⟩ term = none := by
  rw [ofQuery, ofTerms_cons, ofTerms, report?]
  cases term.isIgnoredNegation <;> cases ofTerm? ⟨[], false⟩ term <;> simp

/-- A term on the field for flags and keywords is reported just if it asks for nothing or lists both
separators and nothing else. -/
theorem ofQuery_is_eq_nil_iff (combinator : Combinator) {term : Term}
    (hfield : term.field = some .is) :
    ofQuery ⟨combinator, [term]⟩ = [] ↔ ¬ (term.AsksNothing ∨ term.ListsSeparators) := by
  have hofTerm : ofTerm? ⟨[], false⟩ term = none ↔ Term.listsNothing term.value = false := by
    simp [ofTerm?, Term.isEmpty, hfield]
  have hunique : term.setsUnique = true ↔ term.keyword = Term.uniqueWord := by
    rw [Term.setsUnique_iff, Term.target_eq_iff (by decide)]
    exact and_iff_right hfield
  rw [ofQuery_singleton_eq_nil_iff, hofTerm, Term.isIgnoredNegation]
  cases hnegated : term.negated with
  | false =>
    rw [← Term.listsNothing_iff_asksNothing_or hfield hnegated]
    simp
  | true =>
    have hnot : ¬ term.ListsSeparators := fun h => by simp [h.negated] at hnegated
    rw [Term.asksNothing_of_negated hnegated]
    by_cases hword : term.keyword = Term.uniqueWord
    · simp [hunique.2 hword, Term.listsNothing_of_keyword_eq hword, hword, hnot]
    · simp [mt hunique.1 hword, hword]

/-- **One term is reported just if it is idle or lists both separators and nothing else.** -/
theorem ofQuery_eq_nil_iff_not_idle (combinator : Combinator) (term : Term) :
    ofQuery ⟨combinator, [term]⟩ = [] ↔ ¬ (term.IsIdle ∨ term.ListsSeparators) := by
  by_cases his : term.field = some .is
  · rw [ofQuery_is_eq_nil_iff combinator his, Term.IsIdle, (Term.target_eq_iff (by decide)).2 his]
  · have hnot : ¬ term.ListsSeparators := fun h => his h.field
    have hunique : term.setsUnique = false := by simp [Term.setsUnique, his]
    rw [ofQuery_singleton_eq_nil_iff, Term.isIgnoredNegation, hunique, Term.IsIdle, Term.target]
    cases hfield : term.field with
    | none => simp [ofTerm?, Term.isEmpty, hfield, hnot]
    | some field =>
      cases field with
      | is => exact absurd hfield his
      | numeric which =>
        cases hnegated : term.negated <;> simp [ofTerm?, Term.range?, hfield, hnot, hnegated]
      | _ => simp [ofTerm?, Term.isEmpty, hfield, hnot]

/-- **Of one term, being reported and restricting nothing are the same, unless the term lists both
separators of keywords and nothing else.** -/
theorem ofQuery_eq_nil_iff_restricts_iff (policy : BoundPolicy) (combinator : Combinator)
    (term : Term) :
    (ofQuery ⟨combinator, [term]⟩ = [] ↔
        (Filter.compile policy ⟨combinator, [term]⟩).isEmpty = false) ↔
      ¬ term.ListsSeparators := by
  have hrestricts : (Filter.compile policy ⟨combinator, [term]⟩).isEmpty = false ↔
      ¬ term.IsIdle := by
    rw [← Filter.isEmpty_compile_singleton policy combinator, Bool.not_eq_true]
  have hnot : term.ListsSeparators → ¬ term.IsIdle := fun h => by
    rw [Term.IsIdle, (Term.target_eq_iff (by decide)).2 h.field]
    exact h.not_asksNothing
  rw [ofQuery_eq_nil_iff_not_idle, hrestricts]
  constructor
  · intro h hlists
    exact h.2 (hnot hlists) (Or.inr hlists)
  · intro hlists
    rw [or_iff_left hlists]

/-- Both separators are reported as an empty list, and compiled to a keyword. -/
theorem separators_are_reported_and_compiled :
    ¬ ∀ (policy : BoundPolicy) (combinator : Combinator) (term : Term),
      ofQuery ⟨combinator, [term]⟩ = [] ↔
        (Filter.compile policy ⟨combinator, [term]⟩).isEmpty = false := by
  intro h
  have hterm := h .last .and ⟨some .is, .contains, "|&", false⟩
  revert hterm
  decide +kernel

end Diagnostic

end CardCatalog
