import CardCatalog.Proofs.Filter.Groups

/-!
# Queries that grow

A search is narrowed down by writing more terms behind those that are there. Every rule that makes a
filter of terms has its own reason not to lose what the first of them asked for: lists are put one
behind the other, of several formats the first one counts, of several flags the last one, and an end
of a range is replaced but never taken away (`keepsEnds_foldl_merge`). So under every key that had
one there is a constraint still, and it continues the one that was there (`continues_compile_append`).
-/

namespace CardCatalog

/-- An end that is set stays set. If `tighter` only ever moves it on, the tightest policy does. -/
theorem BoundPolicy.exists_update {tighter : Int → Int → Int} (Beyond : Int → Int → Prop)
    (hrefl : ∀ n, Beyond n n) (htighter : ∀ n m, Beyond n (tighter n m)) (policy : BoundPolicy)
    (current : Int) (new : Option Int) :
    ∃ now ∈ policy.update tighter (some current) new, policy = .tightest → Beyond current now := by
  cases new with
  | none =>
    refine ⟨current, ?_, fun _ => hrefl current⟩
    cases policy <;> rfl
  | some n =>
    cases policy with
    | last => exact ⟨n, rfl, fun h => nomatch h⟩
    | tightest => exact ⟨tighter current n, rfl, fun _ => htighter current n⟩

/-- The range has every end that the earlier one had. With the tightest ends, none of them has moved
outwards. -/
structure Range.KeepsEnds (policy : BoundPolicy) (range earlier : Range) : Prop where
  min : ∀ low ∈ earlier.min, ∃ now ∈ range.min, policy = .tightest → low ≤ now
  max : ∀ high ∈ earlier.max, ∃ now ∈ range.max, policy = .tightest → now ≤ high

namespace Range

variable {policy : BoundPolicy} {range earlier : Range}

theorem KeepsEnds.refl (policy : BoundPolicy) (range : Range) : range.KeepsEnds policy range where
  min low hlow := ⟨low, hlow, fun _ => Int.le_refl low⟩
  max high hhigh := ⟨high, hhigh, fun _ => Int.le_refl high⟩

theorem KeepsEnds.trans {first : Range} (h : range.KeepsEnds policy earlier)
    (hfirst : earlier.KeepsEnds policy first) : range.KeepsEnds policy first where
  min low hlow := by
    obtain ⟨low', hlow', hle'⟩ := hfirst.min low hlow
    obtain ⟨now, hnow, hle⟩ := h.min low' hlow'
    exact ⟨now, hnow, fun hpolicy => Int.le_trans (hle' hpolicy) (hle hpolicy)⟩
  max high hhigh := by
    obtain ⟨high', hhigh', hle'⟩ := hfirst.max high hhigh
    obtain ⟨now, hnow, hle⟩ := h.max high' hhigh'
    exact ⟨now, hnow, fun hpolicy => Int.le_trans (hle hpolicy) (hle' hpolicy)⟩

/-- A further comparison keeps the ends. -/
theorem keepsEnds_merge (policy : BoundPolicy) (range new : Range) :
    (range.merge policy new).KeepsEnds policy range where
  min low hlow := by
    rw [merge, Option.mem_def.1 hlow]
    exact policy.exists_update (fun n m => n ≤ m) Int.le_refl Int.le_max_left low new.min
  max high hhigh := by
    rw [merge, Option.mem_def.1 hhigh]
    exact policy.exists_update (fun n m => m ≤ n) Int.le_refl Int.min_le_left high new.max

/-- **However many comparisons follow, the ends are kept.** -/
theorem keepsEnds_foldl_merge (policy : BoundPolicy) (range : Range) (ranges : List Range) :
    (ranges.foldl (merge policy) range).KeepsEnds policy range := by
  induction ranges generalizing range with
  | nil => exact KeepsEnds.refl policy range
  | cons new rest ih => exact (ih (range.merge policy new)).trans (keepsEnds_merge policy range new)

theorem KeepsEnds.isBounded (h : range.KeepsEnds policy earlier)
    (hearlier : earlier.isBounded = true) : range.isBounded = true := by
  simp only [Range.isBounded, Bool.or_eq_true, Option.isSome_iff_exists] at hearlier ⊢
  rcases hearlier with ⟨low, hlow⟩ | ⟨high, hhigh⟩
  · obtain ⟨now, hnow, -⟩ := h.min low hlow
    exact Or.inl ⟨now, hnow⟩
  · obtain ⟨now, hnow, -⟩ := h.max high hhigh
    exact Or.inr ⟨now, hnow⟩

end Range

/-- The constraint takes up where the earlier one ended: it lists the same values and perhaps more
behind them, asks for the same legality, or keeps the ends of the range. A flag may have turned. -/
inductive Constraint.Continues (policy : BoundPolicy) : Constraint → Constraint → Prop
  | list {values earlier : List Text} :
      earlier <+: values → Continues policy (.list values) (.list earlier)
  | range {range earlier : Range} :
      range.KeepsEnds policy earlier → Continues policy (.range range) (.range earlier)
  | flag (value earlier : Bool) : Continues policy (.flag value) (.flag earlier)
  | legality (format : Text) (statuses : List Text) :
      Continues policy (.legality format statuses) (.legality format statuses)

namespace Filter

/-- Every constraint of the earlier filter is continued under its key. -/
def Continues (policy : BoundPolicy) (filter earlier : Filter) : Prop :=
  ∀ key, ∀ constraint ∈ earlier.constraint key,
    ∃ now ∈ filter.constraint key, now.Continues policy constraint

variable (policy : BoundPolicy)

/-! ## Rule by rule -/

theorem continues_ofValues_append {values : List Text} (more : List Text) {constraint : Constraint}
    (h : constraint ∈ ofValues values) :
    ∃ now ∈ ofValues (values ++ more), now.Continues policy constraint := by
  rw [ofValues] at h
  split at h
  · cases h
  · next hne =>
    cases h
    refine ⟨.list (values ++ more), ?_, .list (List.prefix_append values more)⟩
    rw [ofValues, if_neg fun hnil => hne (List.append_eq_nil_iff.1 hnil).1]
    rfl

theorem isSome_uniqueFlag?_append {terms : List Term} (more : List Term)
    (h : (uniqueFlag? terms).isSome = true) : (uniqueFlag? (terms ++ more)).isSome = true := by
  rw [uniqueFlag?, Option.isSome_map] at h ⊢
  rw [onField_append, List.filter_append, List.getLast?_append, Option.isSome_or, h, Bool.or_true]

theorem keepsEnds_range_append (which : Numeric) (terms more : List Term) :
    (range policy which (terms ++ more)).KeepsEnds policy (range policy which terms) := by
  unfold range rangeOf
  rw [onField_append, List.filterMap_append, List.foldl_append]
  apply Range.keepsEnds_foldl_merge

/-- **What terms put under a key is continued by further terms.** -/
theorem continues_constraintOf_append (terms more : List Term) {key : Key} {constraint : Constraint}
    (h : constraint ∈ constraintOf policy terms key) :
    ∃ now ∈ constraintOf policy (terms ++ more) key, now.Continues policy constraint := by
  cases key with
  | unique =>
    obtain ⟨value, hvalue, rfl⟩ := Option.map_eq_some_iff.1 h
    obtain ⟨now, hnow⟩ := Option.isSome_iff_exists.1
      (isSome_uniqueFlag?_append more (by rw [hvalue]; rfl))
    exact ⟨.flag now, Option.map_eq_some_iff.2 ⟨now, hnow, rfl⟩, .flag now value⟩
  | legality =>
    obtain ⟨format, hformat, rfl⟩ := Option.map_eq_some_iff.1 h
    refine ⟨.legality format ["legal"], Option.map_eq_some_iff.2 ⟨format, ?_, rfl⟩, .legality ..⟩
    rw [values_append, List.head?_append, hformat]
    rfl
  | numeric which =>
    have hkeeps := keepsEnds_range_append policy which terms more
    simp only [constraintOf] at h ⊢
    split at h
    · next hbounded =>
      cases h
      rw [if_pos (hkeeps.isBounded hbounded)]
      exact ⟨_, rfl, .range hkeeps⟩
    · cases h
  | keywords | keywordsOr =>
    simp only [constraintOf, onField_append, List.flatMap_append] at h ⊢
    exact continues_ofValues_append policy _ h
  | _ =>
    simp only [constraintOf, values_append, List.map_append] at h ⊢
    exact continues_ofValues_append policy _ h

/-! ## Whole queries -/

/-- **Terms written behind a query only add to its filter**: no key is lost, lists are continued, the
legality stays, and so do ends of ranges, which under the tightest policy never move outwards. How
the terms are joined does not matter. -/
theorem continues_compile_append (combinator later : Combinator) (terms more : List Term) :
    (compile policy ⟨later, terms ++ more⟩).Continues policy
      (compile policy ⟨combinator, terms⟩) := by
  intro key before h
  rw [constraint_compile] at h ⊢
  exact continues_constraintOf_append policy terms more h

end Filter

end CardCatalog
