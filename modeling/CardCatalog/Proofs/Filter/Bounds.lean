import CardCatalog.Proofs.Filter.Meaning
import CardCatalog.Proofs.Last

/-!
# The ends of a range

The terms on an attribute set lower and upper ends, one after the other. Of the lower ends the range
that is left has the last one under one policy and the greatest under the other, and likewise of the
upper ends the last or the least (`range_last`, `range_tightest`). So the policies agree in
everything but ends that are set more than once (`compile_tightest_narrows`).
-/

namespace CardCatalog

namespace BoundPolicy

variable (tighter : Int → Int → Int)

/-- Of several ends the last one stays. -/
theorem foldl_update_last (current : Option Int) (ends : List (Option Int)) :
    ends.foldl (update .last tighter) current = (ends.filterMap id).getLast?.or current := by
  have hupdate : update .last tighter = fun current new => (id new).or current := by
    funext current new
    cases current <;> cases new <;> rfl
  rw [hupdate, foldl_or]

theorem foldl_update_tightest_some (current : Int) (ends : List (Option Int)) :
    ends.foldl (update .tightest tighter) (some current) =
      some ((ends.filterMap id).foldl tighter current) := by
  induction ends generalizing current with
  | nil => rfl
  | cons new rest ih => cases new <;> exact ih _

/-- Of several ends the tightest one stays, which is the extreme that `tighter` picks from a list. -/
theorem foldl_update_tightest {extreme : List Int → Option Int} (hnil : extreme [] = none)
    (hcons : ∀ n rest, extreme (n :: rest) = some (rest.foldl tighter n))
    (ends : List (Option Int)) :
    ends.foldl (update .tightest tighter) none = extreme (ends.filterMap id) := by
  induction ends with
  | nil => exact hnil.symm
  | cons new rest ih =>
    cases new with
    | none => exact ih
    | some n =>
      have hends : (some n :: rest).filterMap id = n :: rest.filterMap id := rfl
      rw [hends, hcons]
      exact foldl_update_tightest_some tighter n rest

end BoundPolicy

/-- The ends of either side are updated apart from those of the other. -/
theorem Range.foldl_merge (policy : BoundPolicy) (range : Range) (ranges : List Range) :
    ranges.foldl (merge policy) range =
      ⟨(ranges.map min).foldl (policy.update Max.max) range.min,
        (ranges.map max).foldl (policy.update Min.min) range.max⟩ := by
  induction ranges generalizing range with
  | nil => rfl
  | cons new rest ih => exact ih _

/-- No end is lost and none made up. -/
theorem Range.isBounded_merge (policy : BoundPolicy) (range new : Range) :
    (range.merge policy new).isBounded = (range.isBounded || new.isBounded) := by
  obtain ⟨low, high⟩ := range
  obtain ⟨low', high'⟩ := new
  cases policy <;> cases low <;> cases high <;> cases low' <;> cases high' <;> rfl

theorem Range.isBounded_foldl_merge (policy : BoundPolicy) (range : Range) (ranges : List Range) :
    (ranges.foldl (merge policy) range).isBounded = (range.isBounded || ranges.any isBounded) := by
  induction ranges generalizing range with
  | nil => rw [List.foldl_nil, List.any_nil, Bool.or_false]
  | cons new rest ih =>
    rw [List.foldl_cons, ih, isBounded_merge, List.any_cons, Bool.or_assoc]

namespace Filter

/-! ## Which ends stay -/

/-- The ranges that the terms on the attribute set, one by one. -/
def ranges (which : Numeric) (terms : List Term) : List Range :=
  (onField (.numeric which) terms).filterMap Term.range?

theorem isBounded_of_mem_ranges {which : Numeric} {terms : List Term} {new : Range}
    (h : new ∈ ranges which terms) : new.isBounded = true := by
  obtain ⟨term, -, hterm⟩ := List.mem_filterMap.1 h
  obtain ⟨-, n, -, rfl⟩ := Term.range?_eq_some_iff.1 hterm
  exact isBounded_ofComparison term.operator n

/-- **One comparison is enough for a range.** -/
theorem isBounded_range_iff {policy : BoundPolicy} {which : Numeric} {terms : List Term} :
    (range policy which terms).isBounded = true ↔ ∃ new, new ∈ ranges which terms := by
  rw [range, rangeOf, ← ranges, Range.isBounded_foldl_merge, Bool.or_eq_true, List.any_eq_true]
  constructor
  · rintro (hunbounded | ⟨new, hnew, -⟩)
    · cases hunbounded
    · exact ⟨new, hnew⟩
  · rintro ⟨new, hnew⟩
    exact Or.inr ⟨new, hnew, isBounded_of_mem_ranges hnew⟩

/-- The lower ends that the terms set, in their order. -/
def lowerEnds (which : Numeric) (terms : List Term) : List Int :=
  (ranges which terms).filterMap Range.min

/-- The upper ends that the terms set, in their order. -/
def upperEnds (which : Numeric) (terms : List Term) : List Int :=
  (ranges which terms).filterMap Range.max

variable (which : Numeric) (terms : List Term)

/-- **The last ends stay.** -/
theorem range_last :
    range .last which terms =
      ⟨(lowerEnds which terms).getLast?, (upperEnds which terms).getLast?⟩ := by
  rw [range, rangeOf, Range.foldl_merge, BoundPolicy.foldl_update_last, BoundPolicy.foldl_update_last,
    List.filterMap_map, List.filterMap_map]
  simp only [Range.unbounded, Option.or_none]
  rfl

/-- **The greatest lower and the least upper end stay.** -/
theorem range_tightest :
    range .tightest which terms =
      ⟨(lowerEnds which terms).max?, (upperEnds which terms).min?⟩ := by
  rw [range, rangeOf, Range.foldl_merge]
  simp only [Range.unbounded]
  rw [BoundPolicy.foldl_update_tightest _ List.max?_nil fun _ _ => List.max?_cons',
    BoundPolicy.foldl_update_tightest _ List.min?_nil fun _ _ => List.min?_cons',
    List.filterMap_map, List.filterMap_map]
  rfl

/-! ## One policy against the other -/

/-- The filters differ in nothing but the ends of ranges: each has the ends that the other has, and
between those of the first lies no integer that is not between those of the second. -/
structure Narrows (narrow wide : Filter) : Prop where
  text : narrow.text = wide.text
  keys : ∀ key, (narrow.constraint key).isSome = (wide.constraint key).isSome
  constraint : ∀ key, (∀ which, key ≠ .numeric which) →
    narrow.constraint key = wide.constraint key
  min_isSome : ∀ which, (narrow.bounds which).min.isSome = (wide.bounds which).min.isSome
  max_isSome : ∀ which, (narrow.bounds which).max.isSome = (wide.bounds which).max.isSome
  min_le_min : ∀ which, ∀ low ∈ (wide.bounds which).min, ∀ other ∈ (narrow.bounds which).min,
    low ≤ other
  max_le_max : ∀ which, ∀ high ∈ (narrow.bounds which).max, ∀ other ∈ (wide.bounds which).max,
    high ≤ other

theorem isSome_max?_eq (ends : List Int) : ends.max?.isSome = ends.getLast?.isSome := by
  cases ends <;> simp

theorem isSome_min?_eq (ends : List Int) : ends.min?.isSome = ends.getLast?.isSome := by
  cases ends <;> simp

theorem getLast?_of_length_le_one {ends : List Int} (h : ends.length ≤ 1) :
    ends.max? = ends.getLast? ∧ ends.min? = ends.getLast? := by
  match ends, h with
  | [], _ => exact ⟨rfl, rfl⟩
  | [_], _ => exact ⟨rfl, rfl⟩

/-- The ends that stay under one policy are there just if those under the other are. -/
theorem isBounded_range_tightest :
    (range .tightest which terms).isBounded = (range .last which terms).isBounded := by
  rw [Bool.eq_iff_iff, isBounded_range_iff, isBounded_range_iff]

theorem narrows_compile (query : Query) :
    (compile .tightest query).Narrows (compile .last query) where
  text := by rw [text_compile, text_compile]
  keys key := by
    rw [constraint_compile, constraint_compile]
    cases key with
    | numeric which =>
      simp only [constraintOf, isBounded_range_tightest]
      split <;> rfl
    | _ => rfl
  constraint key hkey := by
    rw [constraint_compile, constraint_compile]
    cases key with
    | numeric which => exact absurd rfl (hkey which)
    | _ => rfl
  min_isSome which := by
    rw [bounds_compile, bounds_compile, range_tightest, range_last, isSome_max?_eq]
  max_isSome which := by
    rw [bounds_compile, bounds_compile, range_tightest, range_last, isSome_min?_eq]
  min_le_min which low hlow other hother := by
    rw [bounds_compile, range_last] at hlow
    rw [bounds_compile, range_tightest] at hother
    exact (List.max?_eq_some_iff.1 hother).2 low (List.mem_of_getLast? hlow)
  max_le_max which high hhigh other hother := by
    rw [bounds_compile, range_tightest] at hhigh
    rw [bounds_compile, range_last] at hother
    exact (List.min?_eq_some_iff.1 hhigh).2 other (List.mem_of_getLast? hother)

/-- **The policy matters only where an end is set more than once, and the tightest ends never leave
more.** Otherwise the last ends that terms set are those of the range, and where each end is set at
most once the range is the same. -/
theorem compile_tightest_narrows (query : Query) :
    (compile .tightest query).Narrows (compile .last query) ∧
      ∀ which,
        (compile .last query).bounds which =
          ⟨(lowerEnds which query.terms).getLast?, (upperEnds which query.terms).getLast?⟩ ∧
        ((lowerEnds which query.terms).length ≤ 1 → (upperEnds which query.terms).length ≤ 1 →
          (compile .tightest query).constraint (.numeric which) =
            (compile .last query).constraint (.numeric which)) := by
  refine ⟨narrows_compile query, fun which => ⟨?_, fun hlower hupper => ?_⟩⟩
  · rw [bounds_compile, range_last]
  · have hrange : range .tightest which query.terms = range .last which query.terms := by
      rw [range_tightest, range_last, (getLast?_of_length_le_one hlower).1,
        (getLast?_of_length_le_one hupper).2]
    simp only [constraint_compile, constraintOf, hrange]

/-- The terms set one lower and one upper end. -/
theorem same_range_of_ends_set_once :
    let query : Query := ⟨.and, [⟨some (.numeric .force), .greater, "3", false⟩,
      ⟨some (.numeric .chi), .exact, "2", false⟩, ⟨some (.numeric .force), .less, "9", false⟩]⟩
    (lowerEnds .force query.terms).length ≤ 1 ∧ (upperEnds .force query.terms).length ≤ 1 ∧
      (compile .tightest query).constraint (.numeric .force) =
        (compile .last query).constraint (.numeric .force) := by
  intro query
  have hlower : (lowerEnds .force query.terms).length ≤ 1 := by decide
  have hupper : (upperEnds .force query.terms).length ≤ 1 := by decide
  exact ⟨hlower, hupper, ((compile_tightest_narrows query).2 .force).2 hlower hupper⟩

end Filter

end CardCatalog
