import CardCatalog.Proofs.Filter.Meaning

/-!
# Any term may match

Of a query joined by OR any term may match. Its filter has no OR, and all of its ranges must hold at
once, so that a card which one of the terms admits can be left out. This does not happen just if the
ranges restrict nothing, or if all comparisons are on one attribute and the range left of them covers
the range of each (`keeps_every_term_iff`).
-/

namespace CardCatalog

/-- The term compares one of a card's integers with an integer. -/
structure Term.IsComparison (term : Term) : Prop where
  numeric : ∃ which, term.field = some (.numeric which)
  negated : term.negated = false
  integer : (Integer.read? term.value).isSome = true

namespace Filter

/-- What the filter of one of the terms admits, the filter of the terms joined by OR admits. -/
def KeepsEveryTerm (policy : BoundPolicy) (terms : List Term) : Prop :=
  ∀ card, (∃ term ∈ terms, (compile policy ⟨.or, [term]⟩).Admits card) →
    (compile policy ⟨.or, terms⟩).Admits card

/-- A comparison leaves a proper range of each attribute. -/
theorem isProper_range_singleton (policy : BoundPolicy) {term : Term} (h : term.IsComparison)
    (which : Numeric) : (range policy which [term]).IsProper := by
  obtain ⟨n, hn⟩ := Option.isSome_iff_exists.1 h.integer
  have hrange : term.range? = some (Range.ofComparison term.operator n) :=
    Term.range?_eq_some_iff.2 ⟨h.negated, n, hn, rfl⟩
  rw [range_singleton]
  split
  · rw [hrange]
    exact Range.isProper_ofComparison term.operator (Integer.fits_of_read? hn)
  · exact Range.isProper_unbounded

/-- No card is left out just if every range of the query covers those of its terms. -/
theorem keeps_iff_covers (policy : BoundPolicy) {terms : List Term}
    (hterms : ∀ term ∈ terms, term.IsComparison) :
    KeepsEveryTerm policy terms ↔
      ∀ term ∈ terms, ∀ which, (range policy which terms).Covers (range policy which [term]) := by
  simp only [KeepsEveryTerm, admits_compile_iff]
  constructor
  · intro hkeeps term hterm which
    have hproper := isProper_range_singleton policy (hterms term hterm)
    refine (Range.covers_iff (hproper which)).2 fun n hn hcontains => ?_
    -- a card with `n` for this attribute, which the term admits for all others
    let card : Card := Function.update
      (fun other => ⟨(range policy other [term]).least, (hproper other).fits_least⟩) which ⟨n, hn⟩
    have hadmits : ∀ other, (range policy other [term]).Contains (card other) := by
      intro other
      by_cases hother : other = which
      · subst hother
        simpa [card] using hcontains
      · simpa [card, hother] using (hproper other).contains_least
    simpa [card] using hkeeps card ⟨term, hterm, hadmits⟩ which
  · rintro hcovers card ⟨term, hterm, hadmits⟩ which
    have hproper := isProper_range_singleton policy (hterms term hterm) which
    exact (Range.covers_iff hproper).1 (hcovers term hterm which) _ (card which).2 (hadmits which)

/-- **The filter of comparisons joined by OR admits what any of them admits** just if it admits every
card, or all of them are on one attribute and the range left of it covers the range of each. -/
theorem keeps_every_term_iff (policy : BoundPolicy) (terms : List Term)
    (hterms : ∀ term ∈ terms, term.IsComparison) :
    KeepsEveryTerm policy terms ↔
      (∀ which, (range policy which terms).Covers Range.unbounded) ∨
        ∃ which, ∀ term ∈ terms, term.field = some (.numeric which) ∧
          (range policy which terms).Covers (range policy which [term]) := by
  rw [keeps_iff_covers policy hterms]
  constructor
  · intro hcovers
    by_cases hone : ∃ which, ∀ term ∈ terms, term.field = some (.numeric which)
    · obtain ⟨which, hfield⟩ := hone
      exact Or.inr ⟨which, fun term hterm => ⟨hfield term hterm, hcovers term hterm which⟩⟩
    · refine Or.inl fun which => ?_
      -- a term on another attribute leaves this one without ends
      simp only [not_exists, not_forall] at hone
      obtain ⟨term, hterm, hfield⟩ := hone which
      have hunbounded : range policy which [term] = Range.unbounded := by
        rw [range_singleton, if_neg (mt (Term.target_eq_iff (by simp)).1 hfield)]
      rw [← hunbounded]
      exact hcovers term hterm which
  · rintro (hall | ⟨which, hone⟩) term hterm other
    · exact Range.covers_of_covers_unbounded (hall other)
        (isProper_range_singleton policy (hterms term hterm) other)
    · by_cases hother : other = which
      · subst hother
        exact (hone term hterm).2
      · have hunbounded : range policy other terms = Range.unbounded := by
          refine range_eq_unbounded policy fun term hterm htarget => hother ?_
          have hfield := (Term.target_eq_iff (by simp)).1 htarget
          rw [(hone term hterm).1] at hfield
          cases hfield
          rfl
        rw [hunbounded]
        exact Range.covers_of_covers_unbounded (by decide)
          (isProper_range_singleton policy (hterms term hterm) other)

/-- The later of two lower ends is the lesser one, and stays. -/
theorem keeps_every_term_of_lower_ends :
    let terms : List Term := [⟨some (.numeric .force), .greater, "3", false⟩,
      ⟨some (.numeric .force), .greater, "2", false⟩]
    (∀ term ∈ terms, term.IsComparison) ∧ KeepsEveryTerm .last terms := by
  intro terms
  have hterms : ∀ term ∈ terms, term.IsComparison := by
    intro term hterm
    rcases List.mem_pair.1 hterm with rfl | rfl <;> exact ⟨⟨.force, rfl⟩, rfl, by decide⟩
  exact ⟨hterms, (keeps_every_term_iff .last terms hterms).2 (Or.inr ⟨.force, by decide⟩)⟩

/-- A card with a force of four and no chi matches the first of two terms, and is left out. -/
theorem two_attributes_leave_out_card :
    ¬ ∀ (policy : BoundPolicy) (terms : List Term), (∀ term ∈ terms, term.IsComparison) →
      KeepsEveryTerm policy terms := by
  intro h
  let force : Term := ⟨some (.numeric .force), .greater, "3", false⟩
  let chi : Term := ⟨some (.numeric .chi), .greater, "2", false⟩
  have hterms : ∀ term ∈ [force, chi], term.IsComparison := by
    intro term hterm
    rcases List.mem_pair.1 hterm with rfl | rfl
    · exact ⟨⟨.force, rfl⟩, rfl, by decide⟩
    · exact ⟨⟨.chi, rfl⟩, rfl, by decide⟩
  let card : Card := fun which => if which = .force then ⟨4, by decide⟩ else ⟨0, by decide⟩
  have hadmits : (compile .last ⟨.or, [force]⟩).Admits card := by
    rw [admits_compile_iff]
    intro which
    cases which <;> decide
  have hwhole := h .last [force, chi] hterms card ⟨force, List.mem_cons_self, hadmits⟩
  have hchi := (admits_compile_iff _ _ _).1 hwhole .chi
  revert hchi
  decide

end Filter

end CardCatalog
