import CardCatalog.Diagnostic
import CardCatalog.Proofs.Filter.Groups
import CardCatalog.Proofs.Text.Case

/-!
# Negated terms that are ignored

All negated terms but the flag for unique cards are reported as ignored. Leaving them out of a
query changes no constraint of its filter, and no fragment of its text. It can change the order of
the text: a negated term still counts when it is settled whether names or rules text come first
(`compile_withoutIgnored`).
-/

namespace CardCatalog

namespace Term

/-- The term is negated, and is no flag for unique cards. -/
def isIgnoredNegation (term : Term) : Bool := term.negated && !term.setsUnique

theorem negated_of_isIgnoredNegation {term : Term} (h : term.isIgnoredNegation = true) :
    term.negated = true := (Bool.and_eq_true_iff.1 h).1

/-- The flag for unique cards is spelt in ASCII, with the case of letters left free. -/
theorem keyword_eq_uniqueWord_iff (term : Term) :
    term.keyword = uniqueWord ↔ Text.sameWord term.value uniqueWord = true := by
  have hword : uniqueWord.all (fun d => d.toNat < 128 ∧ d ≠ 'k' ∧ d.toLower = d) = true := by decide
  exact Text.lower_eq_iff_sameWord
    (fun d hd => of_decide_eq_true (List.all_eq_true.1 hword d hd)) term.value

theorem setsUnique_iff (term : Term) :
    term.setsUnique = true ↔ term.target = .is ∧ term.keyword = uniqueWord := by
  rw [setsUnique, Bool.and_eq_true, beq_iff_eq, target_eq_iff (by decide), keyword_eq_uniqueWord_iff]

theorem allKeywords_of_negated {term : Term} (h : term.negated = true) : term.allKeywords = [] := by
  simp [allKeywords, h]

theorem anyKeywords_of_negated {term : Term} (h : term.negated = true) : term.anyKeywords = [] := by
  simp [anyKeywords, h]

theorem range?_of_negated {term : Term} (h : term.negated = true) : term.range? = none := by
  simp [range?, h]

end Term

/-- The query without its ignored negations. -/
def Query.withoutIgnored (query : Query) : Query :=
  { query with terms := query.terms.filter fun term => !term.isIgnoredNegation }

namespace Filter

variable (policy : BoundPolicy) (terms : List Term)

theorem negated_of_not_keep {term : Term} (h : (!term.isIgnoredNegation) = false) :
    term.negated = true :=
  Term.negated_of_isIgnoredNegation (by simpa using h)

theorem values_withoutIgnored (field : Field) :
    values field (terms.filter fun term => !term.isIgnoredNegation) = values field terms := by
  rw [values, values, onField_filter, plainValues, plainValues, List.filter_filter]
  congr 1
  refine List.filter_congr fun term _ => ?_
  cases hnegated : term.negated <;> simp [Term.isIgnoredNegation, hnegated]

theorem flatMap_withoutIgnored {contributes : Term → List Text}
    (h : ∀ term, term.negated = true → contributes term = []) (field : Field) :
    (onField field (terms.filter fun term => !term.isIgnoredNegation)).flatMap contributes =
      (onField field terms).flatMap contributes := by
  rw [onField_filter]
  exact flatMap_filter_of_nil fun term _ hkeep => h term (negated_of_not_keep hkeep)

theorem uniqueFlag?_withoutIgnored :
    uniqueFlag? (terms.filter fun term => !term.isIgnoredNegation) = uniqueFlag? terms := by
  rw [uniqueFlag?, uniqueFlag?, onField_filter, List.filter_filter]
  congr 2
  refine List.filter_congr fun term hterm => ?_
  have htarget : term.target = .is := by simpa [onField] using (List.mem_filter.1 hterm).2
  -- a term with the word for the flag is not among those left out
  cases hword : decide (term.keyword = Term.uniqueWord) with
  | false => rfl
  | true =>
    have : term.setsUnique = true := (Term.setsUnique_iff term).2 ⟨htarget, of_decide_eq_true hword⟩
    simp [Term.isIgnoredNegation, this]

theorem range_withoutIgnored (which : Numeric) :
    range policy which (terms.filter fun term => !term.isIgnoredNegation) =
      range policy which terms := by
  rw [range, range, onField_filter, rangeOf, rangeOf, List.filterMap_filter]
  congr 1
  refine List.filterMap_congr fun term _ => ?_
  split
  · rfl
  · next hkeep =>
    rw [Term.range?_of_negated (negated_of_not_keep (Bool.eq_false_iff.2 hkeep))]

/-- **Ignored negations put nothing under any key.** -/
theorem constraintOf_withoutIgnored :
    constraintOf policy (terms.filter fun term => !term.isIgnoredNegation) =
      constraintOf policy terms := by
  funext key
  cases key with
  | keywords =>
    exact congrArg ofValues (flatMap_withoutIgnored terms (fun _ => Term.allKeywords_of_negated) _)
  | keywordsOr =>
    exact congrArg ofValues (flatMap_withoutIgnored terms (fun _ => Term.anyKeywords_of_negated) _)
  | unique => exact congrArg (Option.map Constraint.flag) (uniqueFlag?_withoutIgnored terms)
  | numeric which => simp only [constraintOf, range_withoutIgnored]
  | _ => simp only [constraintOf, values_withoutIgnored]

theorem block_withoutIgnored (field : Field) :
    block field (terms.filter fun term => !term.isIgnoredNegation) = block field terms := by
  rw [block, values_withoutIgnored, block]

/-- Two orders of two blocks give one text just if the orders are the same or the text does not
show them. -/
theorem intercalate_order_eq_iff {texts names : List Text} {before after : Bool} :
    List.intercalate [' '] (if before then names ++ texts else texts ++ names) =
        List.intercalate [' '] (if after then names ++ texts else texts ++ names) ↔
      before = after ∨
        List.intercalate [' '] (texts ++ names) = List.intercalate [' '] (names ++ texts) := by
  cases before <;> cases after <;> simp [eq_comm]

end Filter

namespace Diagnostic

/-! ## The pass over the terms -/

/-- What is known behind a term; one that is ignored for being negated shows nothing. -/
def Seen.behind (seen : Seen) (term : Term) : Seen :=
  if term.isIgnoredNegation then seen else seen.after term

/-- The diagnostic of a term, with what is known before it. -/
def report? (seen : Seen) (term : Term) : Option Diagnostic :=
  if term.isIgnoredNegation then some (.ignoredNegation term.text) else ofTerm? seen term

theorem ofTerms_cons (seen : Seen) (term : Term) (rest : List Term) :
    ofTerms seen (term :: rest) =
      (report? seen term).toList ++ ofTerms (seen.behind term) rest := by
  rw [ofTerms, report?, Seen.behind]
  change (if term.isIgnoredNegation = true then _ else _) = _
  split <;> rfl

theorem filterMap_ofTerms_cons {α : Type} (view : Diagnostic → Option α) (seen : Seen) (term : Term)
    (rest : List Term) :
    (ofTerms seen (term :: rest)).filterMap view =
      ((report? seen term).bind view).toList ++
        (ofTerms (seen.behind term) rest).filterMap view := by
  rw [ofTerms_cons, List.filterMap_append]
  cases report? seen term with
  | none => rfl
  | some diagnostic =>
    rw [Option.bind_some, Option.toList_some, List.filterMap_cons]
    cases view diagnostic <;> rfl

/-- The negated term that is reported as ignored. -/
def negation? : Diagnostic → Option Text
  | .ignoredNegation term => some term
  | _ => none

/-- No other report is one of an ignored negation. -/
theorem negation?_of_ofTerm? {seen : Seen} {term : Term} {diagnostic : Diagnostic}
    (h : ofTerm? seen term = some diagnostic) : diagnostic.negation? = none := by
  unfold ofTerm? at h
  split at h
  all_goals
    split at h <;> cases h
    rfl

/-- **The ignored negations are reported, in order and nothing else with them.** -/
theorem negations_ofTerms (seen : Seen) (terms : List Term) :
    (ofTerms seen terms).filterMap negation? =
      (terms.filter Term.isIgnoredNegation).map Term.text := by
  induction terms generalizing seen with
  | nil => rfl
  | cons term rest ih =>
    rw [filterMap_ofTerms_cons, ih, report?, List.filter_cons]
    split
    · rfl
    · cases hterm : ofTerm? seen term with
      | none => rfl
      | some diagnostic =>
        rw [Option.bind_some, negation?_of_ofTerm? hterm]
        rfl

end Diagnostic

namespace Filter

/-- **Ignored negations change no constraint, and change the filter only through the order of its
text**: the filter stays the same just if names come first with them and without, or the two
blocks of text read the same in either order. The ignored negations are those reported. -/
theorem compile_withoutIgnored (policy : BoundPolicy) (query : Query) :
    (compile policy query.withoutIgnored).constraint = (compile policy query).constraint ∧
      (compile policy query.withoutIgnored = compile policy query ↔
        namesFirst query.withoutIgnored.terms = namesFirst query.terms ∨
          List.intercalate [' '] (block .text query.terms ++ block .name query.terms) =
            List.intercalate [' '] (block .name query.terms ++ block .text query.terms)) ∧
      (Diagnostic.ofQuery query).filterMap Diagnostic.negation? =
        (query.terms.filter Term.isIgnoredNegation).map Term.text := by
  have hconstraint : (compile policy query.withoutIgnored).constraint =
      (compile policy query).constraint := by
    rw [compile_eq, compile_eq]
    exact constraintOf_withoutIgnored policy query.terms
  refine ⟨hconstraint, ?_, Diagnostic.negations_ofTerms _ _⟩
  have htext : (compile policy query.withoutIgnored).text = (compile policy query).text ↔
      namesFirst query.withoutIgnored.terms = namesFirst query.terms ∨
        List.intercalate [' '] (block .text query.terms ++ block .name query.terms) =
          List.intercalate [' '] (block .name query.terms ++ block .text query.terms) := by
    simp only [text_compile, fragments_eq, Query.withoutIgnored, block_withoutIgnored]
    exact intercalate_order_eq_iff
  rw [← htext, Filter.ext_iff]
  exact and_iff_left hconstraint

/-- A negated name in front puts the names before the rules text. -/
theorem ignored_negation_moves_text :
    ¬ ∀ (policy : BoundPolicy) (query : Query),
      compile policy query.withoutIgnored = compile policy query := by
  intro h
  have htext := congrArg Filter.text (h .last ⟨.and,
    [⟨some .name, .contains, "x", true⟩, ⟨none, .contains, "Doji", false⟩,
      ⟨some .name, .contains, "Hoturi", false⟩]⟩)
  revert htext
  decide +kernel

end Filter

end CardCatalog
