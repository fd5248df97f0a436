import CardCatalog.Proofs.Filter.Bounds
import CardCatalog.Proofs.Integer.Numeral

/-!
# Comparisons of one attribute together

With the tightest ends, the range of an attribute is the intersection of the ranges of its terms
(`contains_range_tightest_iff`), and does not hang on their order or number
(`range_tightest_congr`). The range of one term has the integers, properly between the limits, that
compare with the integer which the term's value denotes, even if that one is beyond the limits
(`contains_ofComparison_clamp_iff`). From both follows what a filter asks of an attribute
(`tightest_is_intersection`).
-/

namespace CardCatalog

/-- The integers compare as the operator says. -/
def Operator.Holds (operator : Operator) (n m : Int) : Prop :=
  match operator with
  | .contains | .exact => n = m
  | .greater => m < n
  | .greaterOrEqual => m ≤ n
  | .less => n < m
  | .lessOrEqual => n ≤ m

instance (operator : Operator) (n m : Int) : Decidable (operator.Holds n m) :=
  match operator with
  | .contains | .exact => inferInstanceAs (Decidable (n = m))
  | .greater => inferInstanceAs (Decidable (m < n))
  | .greaterOrEqual => inferInstanceAs (Decidable (m ≤ n))
  | .less => inferInstanceAs (Decidable (n < m))
  | .lessOrEqual => inferInstanceAs (Decidable (n ≤ m))

namespace Range

/-- Of integers properly between the limits, the range of a clamped integer has those that compare
with the integer itself. -/
theorem contains_ofComparison_clamp_iff (operator : Operator) {n m : Int}
    (hlow : Integer.lowest < n) (hhigh : n < Integer.highest) :
    (ofComparison operator (Integer.clamp m)).Contains n ↔ operator.Holds n m := by
  unfold Integer.lowest at hlow
  unfold Integer.highest at hhigh
  cases operator <;>
    simp only [ofComparison, Contains, Operator.Holds, Option.mem_def, Option.some.injEq,
      forall_eq', reduceCtorEq, false_implies, implies_true, and_true, true_and, Integer.clamp,
      Integer.lowest, Integer.highest] <;>
    omega

/-- With the tightest ends, one more range leaves the integers of both. -/
theorem contains_merge_tightest_iff {range new : Range} {n : Int} :
    (merge .tightest range new).Contains n ↔ range.Contains n ∧ new.Contains n := by
  obtain ⟨low, high⟩ := range
  obtain ⟨low', high'⟩ := new
  cases low <;> cases high <;> cases low' <;> cases high' <;>
    simp [merge, BoundPolicy.update, Contains] <;> omega

theorem contains_foldl_merge_tightest_iff {range : Range} {ranges : List Range} {n : Int} :
    (ranges.foldl (merge .tightest) range).Contains n ↔
      range.Contains n ∧ ∀ new ∈ ranges, new.Contains n := by
  induction ranges generalizing range with
  | nil => simp
  | cons new rest ih =>
    rw [List.foldl_cons, ih, contains_merge_tightest_iff, List.forall_mem_cons, and_assoc]

end Range

namespace Filter

variable {which : Numeric} {terms : List Term}

/-- The terms on the attribute that are not negated. -/
def comparisons (which : Numeric) (terms : List Term) : List Term :=
  (onField (.numeric which) terms).filter (!·.negated)

theorem mem_ranges_iff {new : Range} :
    new ∈ ranges which terms ↔ ∃ term ∈ comparisons which terms,
      ∃ n, Integer.read? term.value = some n ∧ Range.ofComparison term.operator n = new := by
  simp only [ranges, comparisons, List.mem_filterMap, Term.range?_eq_some_iff, List.mem_filter,
    Bool.not_eq_true', and_assoc]

/-- The range has the integers that all ranges have. -/
theorem contains_range_tightest_iff {n : Int} :
    (range .tightest which terms).Contains n ↔ ∀ new ∈ ranges which terms, new.Contains n := by
  rw [range, rangeOf, ← ranges, Range.contains_foldl_merge_tightest_iff]
  exact and_iff_right (Range.contains_unbounded n)

/-- The extremes of a list are those of any list with the same members. -/
theorem extremes_congr {ends others : List Int} (h : ∀ n, n ∈ ends ↔ n ∈ others) :
    ends.max? = others.max? ∧ ends.min? = others.min? := by
  constructor
  · refine Option.ext fun n => ?_
    simp only [List.max?_eq_some_iff, h]
  · refine Option.ext fun n => ?_
    simp only [List.min?_eq_some_iff, h]

/-- Order and repetition of terms do not matter. -/
theorem range_tightest_congr {more : List Term} (h : ∀ term, term ∈ more ↔ term ∈ terms) :
    range .tightest which more = range .tightest which terms := by
  have hranges : ∀ new, new ∈ ranges which more ↔ new ∈ ranges which terms := fun new => by
    simp only [ranges, onField, List.mem_filterMap, List.mem_filter, h]
  have hlower : ∀ n, n ∈ lowerEnds which more ↔ n ∈ lowerEnds which terms := fun n => by
    simp only [lowerEnds, List.mem_filterMap, hranges]
  have hupper : ∀ n, n ∈ upperEnds which more ↔ n ∈ upperEnds which terms := fun n => by
    simp only [upperEnds, List.mem_filterMap, hranges]
  rw [range_tightest, range_tightest, (extremes_congr hlower).1, (extremes_congr hupper).2]

/-- **With the tightest ends a filter asks of an attribute what all its comparisons ask**, however
large the integers are that they name, and in whatever order and number they come. -/
theorem tightest_is_intersection (query : Query) (which : Numeric)
    (hvalues : ∀ term ∈ comparisons which query.terms,
      (Integer.denoted? term.value).isSome = true ∨ Integer.read? term.value = none) :
    (∀ n, Integer.lowest < n → n < Integer.highest →
      (((compile .tightest query).bounds which).Contains n ↔
        ∀ term ∈ comparisons which query.terms, ∀ m ∈ Integer.denoted? term.value,
          term.operator.Holds n m)) ∧
      ∀ other : Query, (∀ term, term ∈ other.terms ↔ term ∈ query.terms) →
        (compile .tightest other).constraint (.numeric which) =
          (compile .tightest query).constraint (.numeric which) := by
  constructor
  · intro n hlow hhigh
    rw [bounds_compile, contains_range_tightest_iff]
    constructor
    · intro hcontains term hterm m hm
      have hnew := mem_ranges_iff.2 ⟨term, hterm, _, Integer.read?_of_denoted? hm, rfl⟩
      exact (Range.contains_ofComparison_clamp_iff term.operator hlow hhigh).1 (hcontains _ hnew)
    · intro hholds new hnew
      obtain ⟨term, hterm, k, hk, rfl⟩ := mem_ranges_iff.1 hnew
      -- the value is read, so it denotes an integer
      have hread : Integer.read? term.value ≠ none := by simp [hk]
      obtain ⟨m, hm⟩ := Option.isSome_iff_exists.1 ((hvalues term hterm).resolve_right hread)
      obtain rfl : Integer.clamp m = k := by simpa [Integer.read?_of_denoted? hm] using hk
      exact (Range.contains_ofComparison_clamp_iff term.operator hlow hhigh).2
        (hholds term hterm m hm)
  · intro other hother
    simp only [constraint_compile, constraintOf, range_tightest_congr hother]

/-- One end is beyond the limits, one value is no integer, one term is negated, and the order is
turned around. -/
theorem tightest_with_end_beyond_limits :
    let terms : List Term := [⟨some (.numeric .force), .greater, "-3", false⟩,
      ⟨some (.numeric .force), .less, "+99999999999999999999", false⟩,
      ⟨some (.numeric .force), .exact, "x", false⟩,
      ⟨some (.numeric .force), .less, "0", true⟩,
      ⟨some (.numeric .force), .lessOrEqual, "7", false⟩]
    (∀ term ∈ comparisons .force terms,
      (Integer.denoted? term.value).isSome = true ∨ Integer.read? term.value = none) ∧
      ((compile .tightest ⟨.and, terms⟩).bounds .force).Contains 7 ∧
      (compile .tightest ⟨.or, terms.reverse⟩).constraint (.numeric .force) =
        (compile .tightest ⟨.and, terms⟩).constraint (.numeric .force) := by
  intro terms
  have hvalues : ∀ term ∈ comparisons .force terms,
      (Integer.denoted? term.value).isSome = true ∨ Integer.read? term.value = none := by
    decide +kernel
  obtain ⟨hcontains, hcongr⟩ := tightest_is_intersection ⟨.and, terms⟩ .force hvalues
  refine ⟨hvalues, (hcontains 7 (by decide) (by decide)).2 ?_, hcongr _ fun _ => List.mem_reverse⟩
  decide +kernel

end Filter

end CardCatalog
