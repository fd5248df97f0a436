import CardCatalog.Proofs.Diagnostic.SingleTerm
import CardCatalog.Proofs.Field.Canonical
import CardCatalog.Proofs.Filter.Growth
import CardCatalog.Proofs.Filter.Intersection
import Mathlib.Data.List.Count
import Mathlib.Data.List.Induction

/-!
# Diagnostics of a whole query

The diagnostics of a query come from one pass over its terms, with some of what has been passed kept
in mind; the filter is put together from the terms on each field. Still the two fit together.

* `Explains` says when a term behind others is reported, without the pass: each diagnostic has one
  rule. What the pass keeps in mind is what the rules ask of the terms before (`Seen.Knows`), so the
  pass makes the diagnostic of a term just if a rule does (`report?_eq_some_iff`).
* `Account` is what the filter and the diagnostics of a query say together of its terms, and
  `account_ofQuery` that they do: no format, no integer, no unknown name and no negation is passed
  over without a diagnostic, and nothing else is reported.
-/

namespace CardCatalog

namespace Term

/-- The term is on the field, and not negated. -/
def asks (field : Field) (term : Term) : Bool := term.field == some field && !term.negated

theorem asks_iff {field : Field} {term : Term} :
    term.asks field = true ↔ term.field = some field ∧ term.negated = false := by
  rw [asks, Bool.and_eq_true, beq_iff_eq, Bool.not_eq_true']

theorem isIgnoredNegation_of_not_negated {term : Term} (h : term.negated = false) :
    term.isIgnoredNegation = false := by
  rw [isIgnoredNegation, h, Bool.false_and]

/-- Of the negated terms, only flags are not ignored. -/
theorem not_negated_of_field_ne {term : Term} (h : term.isIgnoredNegation = false)
    (hfield : term.field ≠ some .is) : term.negated = false := by
  have hunique : term.setsUnique = false := by simp [setsUnique, hfield]
  rwa [isIgnoredNegation, hunique, Bool.not_false, Bool.and_true] at h

theorem asks_of_field {field : Field} {term : Term} (h : term.isIgnoredNegation = false)
    (hfield : term.field = some field) (hne : field ≠ .is) : term.asks field = true :=
  asks_iff.2 ⟨hfield, not_negated_of_field_ne h (by simpa [hfield] using hne)⟩

/-- A flag has a value, so that a term without one is ignored if it is negated. -/
theorem not_negated_of_isEmpty {term : Term} (h : term.isIgnoredNegation = false)
    (hempty : term.isEmpty = true) : term.negated = false := by
  by_cases hfield : term.field = some .is
  · have hword : term.keyword ≠ uniqueWord := by
      intro hword
      rw [isEmpty, hfield] at hempty
      exact absurd hempty (Bool.eq_false_iff.1 (listsNothing_of_keyword_eq hword))
    have hunique : term.setsUnique = false :=
      Bool.eq_false_iff.2 fun hunique => hword ((setsUnique_iff term).1 hunique).2
    rwa [isIgnoredNegation, hunique, Bool.not_false, Bool.and_true] at h
  · exact not_negated_of_field_ne h hfield

/-- The unknown name that the term is about, unless it is negated. -/
def unknownName? (term : Term) : Option Text :=
  match term.field with
  | some (.other name) => if term.negated then none else some name
  | _ => none

theorem unknownName?_eq_some_iff {term : Term} {name : Text} :
    term.unknownName? = some name ↔ term.asks (.other name) = true := by
  rw [asks_iff, unknownName?]
  split
  · next written hfield => cases term.negated <;> simp [hfield]
  · next hfield => exact iff_of_false (Option.some_ne_none name).symm fun h => hfield name h.1

end Term

namespace Diagnostic

/-! ## The rules -/

/-- The diagnostic is made at the term if it stands behind these others. -/
inductive Explains (before : List Term) (term : Term) : Diagnostic → Prop
  | ignoredNegation : term.isIgnoredNegation = true →
      Explains before term (.ignoredNegation term.text)
  /-- Only the first term on an unknown field is reported. -/
  | unknownField {name : Text} : term.asks (.other name) = true →
      (∀ earlier ∈ before, earlier.asks (.other name) = false) →
        Explains before term (.unknownField name (Field.suggest? name))
  | nonIntegerValue {which : Numeric} : term.asks (.numeric which) = true →
      Integer.read? term.value = none →
        Explains before term (.nonIntegerValue which.name term.value)
  /-- All but the first term on the format are reported. -/
  | extraFormat : term.asks .format = true → (∃ earlier ∈ before, earlier.asks .format = true) →
      Explains before term (.extraFormat term.value)
  | emptyValue : term.negated = false → term.isEmpty = true →
      Explains before term (.emptyValue term.text)

/-- The diagnostic is made at the term in this place. -/
def MadeAt (terms : List Term) (place : Nat) (diagnostic : Diagnostic) : Prop :=
  ∃ term, terms[place]? = some term ∧ diagnostic.Explains (terms.take place) term

/-! ## The pass -/

/-- What the terms show to one behind them. -/
def Seen.ofTerms (terms : List Term) : Seen := terms.foldl behind ⟨[], false⟩

/-- What is known is what the rules ask of the terms before. -/
structure Seen.Knows (seen : Seen) (before : List Term) : Prop where
  fields : ∀ name, name ∈ seen.fields ↔ ∃ earlier ∈ before, earlier.asks (.other name) = true
  format : seen.format = true ↔ ∃ earlier ∈ before, earlier.asks .format = true

namespace Seen

variable {seen : Seen} {before : List Term}

theorem mem_fields_behind_iff (seen : Seen) (term : Term) (name : Text) :
    name ∈ (seen.behind term).fields ↔ name ∈ seen.fields ∨ term.asks (.other name) = true := by
  rw [behind, Term.asks_iff]
  split
  · next hignored => simp [Term.negated_of_isIgnoredNegation hignored]
  · next hignored =>
    unfold after
    split
    · next written hfield =>
      have hnot := Term.not_negated_of_field_ne (Bool.eq_false_iff.2 hignored) (by simp [hfield])
      simp [hfield, hnot, or_comm, eq_comm]
    · next hfield => simp [hfield]
    · next hfield _ => exact (or_iff_left fun h => hfield name h.1).symm

theorem format_behind (seen : Seen) (term : Term) :
    (seen.behind term).format = (seen.format || term.asks .format) := by
  rw [Bool.eq_iff_iff, Bool.or_eq_true, behind, Term.asks_iff]
  split
  · next hignored => simp [Term.negated_of_isIgnoredNegation hignored]
  · next hignored =>
    unfold after
    split
    · next written hfield => simp [hfield]
    · next hfield =>
      have hnot := Term.not_negated_of_field_ne (Bool.eq_false_iff.2 hignored) (by simp [hfield])
      simp [hfield, hnot]
    · next hfield => exact (or_iff_left fun h => hfield h.1).symm

theorem knows_nil : Knows ⟨[], false⟩ [] where
  fields := by simp
  format := by simp

/-- **One more term** is known as the rules ask. -/
theorem Knows.behind (h : seen.Knows before) (term : Term) :
    (seen.behind term).Knows (before ++ [term]) where
  fields name := by
    rw [mem_fields_behind_iff, h.fields]
    simp [or_and_right, exists_or]
  format := by
    rw [format_behind, Bool.or_eq_true, h.format]
    simp [or_and_right, exists_or]

theorem Knows.not_mem_fields_iff (h : seen.Knows before) (name : Text) :
    name ∉ seen.fields ↔ ∀ earlier ∈ before, earlier.asks (.other name) = false := by
  rw [h.fields]
  simp

theorem knows_ofTerms (terms : List Term) : (ofTerms terms).Knows terms := by
  induction terms using List.reverseRecOn with
  | nil => exact knows_nil
  | append_singleton terms term ih =>
    rw [ofTerms, List.foldl_append]
    exact ih.behind term

end Seen

section Rules

variable {seen : Seen} {before : List Term} (h : seen.Knows before) {term : Term}
  {diagnostic : Diagnostic}
include h

/-- What is reported of a term, a rule says. -/
theorem explains_of_report? (hreport : report? seen term = some diagnostic) :
    diagnostic.Explains before term := by
  unfold report? at hreport
  split at hreport
  · next hignored =>
    cases hreport
    exact .ignoredNegation hignored
  next hkept =>
  rw [Bool.not_eq_true] at hkept
  unfold ofTerm? at hreport
  split at hreport
  · next name hfield =>
    split at hreport
    · cases hreport
    · next hnew =>
      cases hreport
      exact .unknownField (Term.asks_of_field hkept hfield nofun)
        ((h.not_mem_fields_iff name).1 (mt List.contains_iff_mem.2 hnew))
  · next which hfield =>
    split at hreport
    · next hnone =>
      cases hreport
      exact .nonIntegerValue (Term.asks_of_field hkept hfield nofun)
        (Option.isNone_iff_eq_none.1 hnone)
    · cases hreport
  · next hfield =>
    split at hreport
    · next hseen =>
      cases hreport
      exact .extraFormat (Term.asks_of_field hkept hfield nofun) (h.format.1 hseen)
    · cases hreport
  · split at hreport
    · next hempty =>
      cases hreport
      exact .emptyValue (Term.not_negated_of_isEmpty hkept hempty) hempty
    · cases hreport

/-- What a rule says of a term is reported. -/
theorem Explains.report?_eq (hexplains : diagnostic.Explains before term) :
    report? seen term = some diagnostic := by
  unfold report?
  cases hexplains with
  | ignoredNegation hignored => rw [if_pos hignored]
  | @unknownField name hasks hnew =>
    obtain ⟨hfield, hnot⟩ := Term.asks_iff.1 hasks
    have hunseen := (h.not_mem_fields_iff name).2 hnew
    simp [Term.isIgnoredNegation_of_not_negated hnot, ofTerm?, hfield, hunseen]
  | nonIntegerValue hasks hnone =>
    obtain ⟨hfield, hnot⟩ := Term.asks_iff.1 hasks
    simp [Term.isIgnoredNegation_of_not_negated hnot, ofTerm?, hfield, hnone]
  | extraFormat hasks hearlier =>
    obtain ⟨hfield, hnot⟩ := Term.asks_iff.1 hasks
    simp [Term.isIgnoredNegation_of_not_negated hnot, ofTerm?, hfield, h.format.2 hearlier]
  | emptyValue hnot hempty =>
    rw [Term.isIgnoredNegation_of_not_negated hnot, if_neg Bool.false_ne_true, ofTerm?]
    -- terms on the fields that have a diagnostic of their own are not empty
    split
    · next hfield => simp [Term.isEmpty, hfield] at hempty
    · next hfield => simp [Term.isEmpty, hfield] at hempty
    · next hfield => simp [Term.isEmpty, hfield] at hempty
    · rw [if_pos hempty]

/-- **A term is reported by the rules.** -/
theorem report?_eq_some_iff :
    report? seen term = some diagnostic ↔ diagnostic.Explains before term :=
  ⟨explains_of_report? h, Explains.report?_eq h⟩

end Rules

/-! ## Places -/

/-- The diagnostic at a place, if there is one. -/
def reportAt? (terms : List Term) (place : Nat) : Option Diagnostic :=
  (terms[place]?).bind (report? (Seen.ofTerms (terms.take place)))

theorem reportAt?_eq_some_iff {terms : List Term} {place : Nat} {diagnostic : Diagnostic} :
    reportAt? terms place = some diagnostic ↔ MadeAt terms place diagnostic := by
  simp only [reportAt?, Option.bind_eq_some_iff, report?_eq_some_iff (Seen.knows_ofTerms _), MadeAt]

/-- **The pass goes from place to place.** -/
theorem ofTerms_eq_filterMap (seen : Seen) (terms : List Term) :
    ofTerms seen terms = (List.range terms.length).filterMap fun place =>
      (terms[place]?).bind (report? ((terms.take place).foldl Seen.behind seen)) := by
  induction terms generalizing seen with
  | nil => rfl
  | cons term rest ih =>
    rw [ofTerms_cons, ih, List.length_cons, List.range_succ_eq_map, List.filterMap_cons,
      List.filterMap_map]
    simp only [List.getElem?_cons_zero, List.take_zero, List.foldl_nil, Option.bind_some]
    cases report? seen term <;> rfl

theorem ofQuery_eq_filterMap (query : Query) :
    ofQuery query = (List.range query.terms.length).filterMap (reportAt? query.terms) :=
  ofTerms_eq_filterMap ⟨[], false⟩ query.terms

/-! ## What is reported of one kind -/

/-- The unknown field that is reported. -/
def unknownField? : Diagnostic → Option Text
  | .unknownField field _ => some field
  | _ => none

/-- The field that is not compared with an integer. -/
def nonIntegerField? : Diagnostic → Option Text
  | .nonIntegerValue field _ => some field
  | _ => none

/-- The format that is not used. -/
def extraFormat? : Diagnostic → Option Text
  | .extraFormat value => some value
  | _ => none

section Views

variable {seen : Seen} {before : List Term} (h : seen.Knows before)
include h

theorem bind_extraFormat? (term : Term) :
    (report? seen term).bind extraFormat? =
      if term.asks .format && seen.format then some term.value else none := by
  ext value
  simp only [Option.bind_eq_some_iff, report?_eq_some_iff h]
  constructor
  · rintro ⟨diagnostic, hexplains, hvalue⟩
    cases hexplains <;> cases hvalue
    next hasks hearlier => rw [hasks, h.format.2 hearlier, Bool.and_self, if_pos rfl]
  · intro hvalue
    split at hvalue
    · next hcond =>
      obtain ⟨hasks, hseen⟩ := Bool.and_eq_true_iff.1 hcond
      cases hvalue
      exact ⟨_, .extraFormat hasks (h.format.1 hseen), rfl⟩
    · cases hvalue

theorem bind_nonIntegerField?_eq_some_iff (term : Term) (which : Numeric) :
    (report? seen term).bind nonIntegerField? = some which.name ↔
      term.asks (.numeric which) = true ∧ Integer.read? term.value = none := by
  simp only [Option.bind_eq_some_iff, report?_eq_some_iff h]
  constructor
  · rintro ⟨diagnostic, hexplains, hname⟩
    cases hexplains <;> simp only [nonIntegerField?, reduceCtorEq, Option.some.injEq] at hname
    next other hasks hnone =>
      obtain rfl := Numeric.name_injective hname
      exact ⟨hasks, hnone⟩
  · rintro ⟨hasks, hnone⟩
    exact ⟨_, .nonIntegerValue hasks hnone, rfl⟩

theorem bind_unknownField? (term : Term) :
    (report? seen term).bind unknownField? =
      term.unknownName?.filter fun name => !seen.fields.contains name := by
  ext name
  have hnew : (!seen.fields.contains name) = true ↔
      ∀ earlier ∈ before, earlier.asks (.other name) = false := by
    rw [← h.not_mem_fields_iff, Bool.not_eq_true', ← Bool.not_eq_true, List.contains_iff_mem]
  simp only [Option.bind_eq_some_iff, report?_eq_some_iff h, Option.filter_eq_some_iff,
    Term.unknownName?_eq_some_iff, hnew]
  constructor
  · rintro ⟨diagnostic, hexplains, hname⟩
    cases hexplains <;> cases hname
    next hasks hfirst => exact ⟨hasks, hfirst⟩
  · rintro ⟨hasks, hfirst⟩
    exact ⟨_, .unknownField hasks hfirst, rfl⟩

/-- **Once there was a format, every other one is reported.** -/
theorem extraFormats_ofTerms (terms : List Term) :
    (ofTerms seen terms).filterMap extraFormat? =
      if seen.format then (terms.filter (·.asks .format)).map (·.value)
      else ((terms.filter (·.asks .format)).map (·.value)).tail := by
  induction terms generalizing seen before with
  | nil => cases seen.format <;> rfl
  | cons term rest ih =>
    rw [filterMap_ofTerms_cons, bind_extraFormat? h, ih (h.behind term), Seen.format_behind,
      List.filter_cons]
    cases term.asks .format <;> cases seen.format <;> rfl

/-- Comparisons with something else than an integer are all reported. -/
theorem count_nonIntegerFields_ofTerms (which : Numeric) (terms : List Term) :
    ((ofTerms seen terms).filterMap nonIntegerField?).count which.name =
      (terms.filter (·.asks (.numeric which))).countP
        fun term => (Integer.read? term.value).isNone := by
  induction terms generalizing seen before with
  | nil => rfl
  | cons term rest ih =>
    have hcount : ((report? seen term).bind nonIntegerField?).toList.count which.name =
        if term.asks (.numeric which) = true ∧ Integer.read? term.value = none then 1 else 0 := by
      simp only [← bind_nonIntegerField?_eq_some_iff h]
      cases (report? seen term).bind nonIntegerField? with
      | none => rfl
      | some field => simp [List.count_singleton]
    rw [filterMap_ofTerms_cons, List.count_append, ih (h.behind term), hcount, List.filter_cons]
    cases term.asks (.numeric which) with
    | false => simp
    | true =>
      rw [if_pos rfl, List.countP_cons, Nat.add_comm]
      cases Integer.read? term.value <;> rfl

/-- **Every unknown name is reported once**, unless it was reported before. -/
theorem unknownFields_ofTerms (terms : List Term) :
    (ofTerms seen terms).filterMap unknownField? =
      ((terms.filterMap Term.unknownName?).filter
        fun name => !seen.fields.contains name).eraseDups := by
  induction terms generalizing seen before with
  | nil => rfl
  | cons term rest ih =>
    have hbehind : (fun name => !(seen.behind term).fields.contains name) = fun name =>
        !seen.fields.contains name && !(term.unknownName? == some name) := by
      funext name
      rw [← Bool.not_or, Bool.eq_iff_iff]
      simp [Seen.mem_fields_behind_iff, Term.unknownName?_eq_some_iff]
    rw [filterMap_ofTerms_cons, bind_unknownField? h, ih (h.behind term), hbehind]
    cases hname : term.unknownName? with
    | none =>
      rw [List.filterMap_cons_none hname]
      simp
    | some name =>
      rw [List.filterMap_cons_some hname, List.filter_cons, Option.filter_some]
      cases hseen : seen.fields.contains name with
      | true =>
        -- known before, the name is in neither list, so one more look at it leaves nothing else out
        rw [if_neg (by simp), if_neg (by simp), Option.toList_none, List.nil_append]
        congr 1
        refine List.filter_congr fun other _ => ?_
        by_cases hother : other = name
        · rw [hother, hseen]
          rfl
        · simp [Ne.symm hother]
      | false =>
        have hother : (fun other => !seen.fields.contains other && !(some name == some other)) =
            fun other => !(other == name) && !seen.fields.contains other := by
          funext other
          rw [Option.some_beq_some, Bool.and_comm, Bool.beq_comm]
        rw [hother, Bool.not_false, if_pos rfl, if_pos rfl, Option.toList_some,
          List.eraseDups_cons, List.filter_filter]
        rfl

end Views

end Diagnostic

namespace Filter

variable (policy : BoundPolicy)

/-- The format of which a card has to be legal. -/
def format? (filter : Filter) : Option Text :=
  match filter.constraint .legality with
  | some (.legality format _) => some format
  | _ => none

/-- Only rules text is asked for without its field. -/
theorem filter_asks {field : Field} (hfield : field ≠ .text) (terms : List Term) :
    terms.filter (·.asks field) = (onField field terms).filter (!·.negated) := by
  rw [onField, List.filter_filter]
  refine List.filter_congr fun term _ => ?_
  rw [Bool.eq_iff_iff, Term.asks_iff, Bool.and_eq_true, decide_eq_true_eq,
    Term.target_eq_iff hfield, Bool.not_eq_true', and_comm]

theorem format?_compile (query : Query) :
    (compile policy query).format? =
      ((query.terms.filter (·.asks .format)).map (·.value)).head? := by
  rw [filter_asks (by decide), ← plainValues, ← values]
  simp only [format?, constraint_compile, constraintOf]
  cases (values .format query.terms).head? <;> rfl

/-- **An attribute has a range just if not every value that it is compared with is refused.** -/
theorem isSome_range?_compile_iff (query : Query) (which : Numeric) :
    ((compile policy query).range? which).isSome = true ↔
      ((query.terms.filter (·.asks (.numeric which))).countP
        fun term => (Integer.read? term.value).isNone) <
          (query.terms.filter (·.asks (.numeric which))).length := by
  have hrange : ((compile policy query).range? which).isSome =
      (range policy which query.terms).isBounded := by
    simp only [range?, constraint_compile, constraintOf]
    cases (range policy which query.terms).isBounded <;> rfl
  rw [hrange, isBounded_range_iff, filter_asks (by simp), ← comparisons,
    List.countP_lt_length_iff]
  simp only [mem_ranges_iff, Option.isNone_eq_false_iff, Option.isSome_iff_exists]
  constructor
  · rintro ⟨new, term, hterm, n, hn, -⟩
    exact ⟨term, hterm, n, hn⟩
  · rintro ⟨term, hterm, n, hn⟩
    exact ⟨_, term, hterm, n, hn, rfl⟩

end Filter

namespace Diagnostic

/-- The diagnostics account for the terms of the query that the filter passes over. -/
structure Account (policy : BoundPolicy) (query : Query) (diagnostics : List Diagnostic) :
    Prop where
  /-- Of the formats one is in the filter, and the others are reported. -/
  formats : (query.terms.filter (·.asks .format)).map (·.value) =
    (Filter.compile policy query).format?.toList ++ diagnostics.filterMap extraFormat?
  /-- An attribute without a range is one of which every comparison is reported. -/
  ranges : ∀ which, ((Filter.compile policy query).range? which).isSome = true ↔
    (diagnostics.filterMap nonIntegerField?).count which.name <
      (query.terms.filter (·.asks (.numeric which))).length
  /-- Unknown names are reported once each. -/
  unknown : diagnostics.filterMap unknownField? =
    (query.terms.filterMap Term.unknownName?).eraseDups
  negations : diagnostics.filterMap negation? =
    (query.terms.filter Term.isIgnoredNegation).map Term.text
  /-- Each term has one diagnostic at most, by the rules, and they stand in the order of terms. -/
  order : ∃ at? : Nat → Option Diagnostic,
    diagnostics = (List.range query.terms.length).filterMap at? ∧
      ∀ place diagnostic, at? place = some diagnostic ↔ MadeAt query.terms place diagnostic

/-- **Whatever a filter passes over is reported, and nothing else is.** -/
theorem account_ofQuery (policy : BoundPolicy) (query : Query) :
    Account policy query (ofQuery query) where
  formats := by
    rw [Filter.format?_compile, ofQuery, extraFormats_ofTerms Seen.knows_nil,
      if_neg Bool.false_ne_true]
    cases (query.terms.filter (·.asks .format)).map (·.value) <;> rfl
  ranges which := by
    rw [Filter.isSome_range?_compile_iff, ofQuery,
      count_nonIntegerFields_ofTerms Seen.knows_nil]
  unknown := by
    rw [ofQuery, unknownFields_ofTerms Seen.knows_nil]
    simp
  negations := negations_ofTerms ⟨[], false⟩ query.terms
  order := ⟨reportAt? query.terms, ofQuery_eq_filterMap query,
    fun _ _ => reportAt?_eq_some_iff⟩

end Diagnostic

end CardCatalog
