import CardCatalog.Diagnostic
import CardCatalog.Proofs.Filter.Groups
import Mathlib.Data.Set.Basic

/-!
# Keywords of several terms

A filter asks for keywords in two lists: those of the first must all be there, and of the second at
least one. The terms of a query share the two lists. Nothing is lost of what terms require, but of
several lists with `|` only their union is left, from which the single lists cannot be told.
So cards that every term admits are admitted, and others may be as well. There are no others just
if each list with `|` has a keyword that is required anyway, or has all keywords of all such lists
(`conjoinsKeywords_iff`).
-/

namespace CardCatalog

/-- The term asks for keywords and sets no flag, nor does any piece of it read as the flag. -/
structure Term.IsKeyword (term : Term) : Prop where
  field : term.field = some .is
  negated : term.negated = false
  ne_unique : term.keyword ≠ uniqueWord
  piece_ne_unique : ∀ piece ∈ Text.pieces isKeywordSeparator term.keyword,
    Text.trim piece ≠ uniqueWord

namespace Filter

/-- A card with these keywords has those that the filter asks for. -/
structure AdmitsKeywords (filter : Filter) (keywords : Set Text) : Prop where
  all : ∀ values ∈ filter.list? .keywords, ∀ keyword ∈ values, keyword ∈ keywords
  any : ∀ values ∈ filter.list? .keywordsOr, ∃ keyword ∈ values, keyword ∈ keywords

/-- The keywords that the terms require. -/
def requiredKeywords (terms : List Term) : List Text :=
  (onField .is terms).flatMap Term.allKeywords

/-- The keywords that the terms list with `|`. -/
def listedKeywords (terms : List Term) : List Text :=
  (onField .is terms).flatMap Term.anyKeywords

/-- The terms, joined by AND, admit the keywords that each of them admits, and no others. -/
def ConjoinsKeywords (policy : BoundPolicy) (terms : List Term) : Prop :=
  ∀ keywords : Set Text, (compile policy ⟨.and, terms⟩).AdmitsKeywords keywords ↔
    ∀ term ∈ terms, (compile policy ⟨.and, [term]⟩).AdmitsKeywords keywords

/-! ## What is asked for -/

theorem mem_list?_iff {filter : Filter} {key : Key} {values : List Text}
    (h : filter.constraint key = ofValues values) {listed : List Text} :
    listed ∈ filter.list? key ↔ values ≠ [] ∧ values = listed := by
  by_cases hnil : values = [] <;> simp [list?, h, ofValues, hnil]

/-- A list that is not kept, for being empty, asks for nothing. -/
theorem admitsKeywords_compile_iff {policy : BoundPolicy} {query : Query} {keywords : Set Text} :
    (compile policy query).AdmitsKeywords keywords ↔
      (∀ keyword ∈ requiredKeywords query.terms, keyword ∈ keywords) ∧
        (listedKeywords query.terms ≠ [] →
          ∃ keyword ∈ listedKeywords query.terms, keyword ∈ keywords) := by
  have hall : (compile policy query).constraint .keywords =
      ofValues (requiredKeywords query.terms) := constraint_compile policy query .keywords
  have hany : (compile policy query).constraint .keywordsOr =
      ofValues (listedKeywords query.terms) := constraint_compile policy query .keywordsOr
  constructor
  · rintro ⟨hrequired, hlisted⟩
    refine ⟨fun keyword hkeyword => ?_, fun hne => hlisted _ ((mem_list?_iff hany).2 ⟨hne, rfl⟩)⟩
    have hne := List.ne_nil_of_mem hkeyword
    exact hrequired _ ((mem_list?_iff hall).2 ⟨hne, rfl⟩) keyword hkeyword
  · rintro ⟨hrequired, hlisted⟩
    constructor
    · intro values hvalues
      obtain ⟨-, rfl⟩ := (mem_list?_iff hall).1 hvalues
      exact hrequired
    · intro values hvalues
      obtain ⟨hne, rfl⟩ := (mem_list?_iff hany).1 hvalues
      exact hlisted hne

/-- One by one, the terms require the same, but ask for a keyword of each list. -/
theorem forall_admitsKeywords_iff {policy : BoundPolicy} {terms : List Term}
    {keywords : Set Text} :
    (∀ term ∈ terms, (compile policy ⟨.and, [term]⟩).AdmitsKeywords keywords) ↔
      (∀ keyword ∈ requiredKeywords terms, keyword ∈ keywords) ∧
        ∀ term ∈ onField .is terms, term.anyKeywords ≠ [] →
          ∃ keyword ∈ term.anyKeywords, keyword ∈ keywords := by
  have hterm : ∀ term, (compile policy ⟨.and, [term]⟩).AdmitsKeywords keywords ↔
      (term.target = .is → (∀ keyword ∈ term.allKeywords, keyword ∈ keywords) ∧
        (term.anyKeywords ≠ [] → ∃ keyword ∈ term.anyKeywords, keyword ∈ keywords)) := by
    intro term
    rw [admitsKeywords_compile_iff, requiredKeywords, listedKeywords, onField_singleton]
    by_cases htarget : term.target = .is <;> simp [htarget]
  simp only [hterm, requiredKeywords, List.mem_flatMap, onField, List.mem_filter,
    decide_eq_true_eq]
  constructor
  · intro h
    refine ⟨?_, fun term hmem => (h term hmem.1 hmem.2).2⟩
    rintro keyword ⟨term, hmem, hkeyword⟩
    exact (h term hmem.1 hmem.2).1 keyword hkeyword
  · rintro ⟨hrequired, hlisted⟩ term hmem htarget
    exact ⟨fun keyword hkeyword => hrequired keyword ⟨term, ⟨hmem, htarget⟩, hkeyword⟩,
      hlisted term ⟨hmem, htarget⟩⟩

/-- Keywords that every term admits are admitted by the whole. -/
theorem admitsKeywords_of_forall {policy : BoundPolicy} {terms : List Term} {keywords : Set Text}
    (h : ∀ term ∈ terms, (compile policy ⟨.and, [term]⟩).AdmitsKeywords keywords) :
    (compile policy ⟨.and, terms⟩).AdmitsKeywords keywords := by
  obtain ⟨hrequired, hlisted⟩ := forall_admitsKeywords_iff.1 h
  refine admitsKeywords_compile_iff.2 ⟨hrequired, fun hne => ?_⟩
  obtain ⟨keyword, hkeyword⟩ := List.exists_mem_of_ne_nil _ hne
  obtain ⟨term, hterm, hmem⟩ := List.mem_flatMap.1 hkeyword
  obtain ⟨other, hother, hin⟩ := hlisted term hterm (List.ne_nil_of_mem hmem)
  exact ⟨other, List.mem_flatMap.2 ⟨term, hterm, hother⟩, hin⟩

/-! ## When nothing else is admitted -/

/-- **A filter admits the keywords that each term admits**, and no others just if each list with `|`
has a required keyword or has every keyword that is listed with `|` at all. -/
theorem conjoinsKeywords_iff (policy : BoundPolicy) (terms : List Term) :
    (∀ keywords : Set Text,
      (∀ term ∈ terms, (compile policy ⟨.and, [term]⟩).AdmitsKeywords keywords) →
        (compile policy ⟨.and, terms⟩).AdmitsKeywords keywords) ∧
      (ConjoinsKeywords policy terms ↔
        ∀ term ∈ onField .is terms, term.anyKeywords ≠ [] →
          (∃ keyword ∈ term.anyKeywords, keyword ∈ requiredKeywords terms) ∨
            listedKeywords terms ⊆ term.anyKeywords) := by
  refine ⟨fun keywords => admitsKeywords_of_forall, ?_⟩
  constructor
  · intro hconjoins term hterm hne
    by_contra hcond
    obtain ⟨hrequired, hlisted⟩ := not_or.1 hcond
    obtain ⟨keyword, hkeyword, hnot⟩ :
        ∃ keyword ∈ listedKeywords terms, keyword ∉ term.anyKeywords := by
      simpa [List.subset_def] using hlisted
    -- besides what is required, a keyword that only other terms list
    let keywords : Set Text := {other | other ∈ requiredKeywords terms ∨ other = keyword}
    have hwhole : (compile policy ⟨.and, terms⟩).AdmitsKeywords keywords :=
      admitsKeywords_compile_iff.2
        ⟨fun other hother => Or.inl hother, fun _ => ⟨keyword, hkeyword, Or.inr rfl⟩⟩
    obtain ⟨-, heach⟩ := forall_admitsKeywords_iff.1 ((hconjoins keywords).1 hwhole)
    obtain ⟨other, hother, hin | rfl⟩ := heach term hterm hne
    · exact hrequired ⟨other, hother, hin⟩
    · exact hnot hother
  · intro hcond keywords
    refine ⟨fun hwhole => ?_, admitsKeywords_of_forall⟩
    obtain ⟨hrequired, hlisted⟩ := admitsKeywords_compile_iff.1 hwhole
    refine forall_admitsKeywords_iff.2 ⟨hrequired, fun term hterm hne => ?_⟩
    rcases hcond term hterm hne with ⟨keyword, hkeyword, hin⟩ | hsubset
    · exact ⟨keyword, hkeyword, hrequired keyword hin⟩
    · obtain ⟨keyword, hkeyword⟩ := List.exists_mem_of_ne_nil _ hne
      have hmem : keyword ∈ listedKeywords terms := List.mem_flatMap.2 ⟨term, hterm, hkeyword⟩
      obtain ⟨other, hother, hin⟩ := hlisted (List.ne_nil_of_mem hmem)
      exact ⟨other, hsubset hother, hin⟩

/-- A card with a keyword that only the second list has is admitted, though the first term asks for
one of the two others. -/
theorem second_list_admits_card :
    ¬ ∀ (policy : BoundPolicy) (terms : List Term), (∀ term ∈ terms, term.IsKeyword) →
      ConjoinsKeywords policy terms := by
  intro h
  let first : Term := ⟨some .is, .contains, "cavalry|experienced", false⟩
  let second : Term := ⟨some .is, .contains, "cavalry|experienced|shugenja", false⟩
  have hterms : ∀ term ∈ [first, second], term.IsKeyword := by
    intro term hterm
    rcases List.mem_pair.1 hterm with rfl | rfl <;>
      exact ⟨rfl, rfl, by decide +kernel, by decide +kernel⟩
  let keywords : Set Text := {keyword | keyword = ("shugenja" : Text)}
  have hwhole : (compile .last ⟨.and, [first, second]⟩).AdmitsKeywords keywords :=
    admitsKeywords_compile_iff.2 ⟨by decide +kernel, fun _ => ⟨"shugenja", by decide +kernel, rfl⟩⟩
  obtain ⟨-, heach⟩ := forall_admitsKeywords_iff.1 ((h .last _ hterms keywords).1 hwhole)
  have hfirst : ∃ keyword ∈ first.anyKeywords, keyword = ("shugenja" : Text) :=
    heach first (by decide) (by decide +kernel)
  revert hfirst
  decide +kernel

end Filter

end CardCatalog
