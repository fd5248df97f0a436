import CardCatalog.Proofs.Filter.Groups
import CardCatalog.Proofs.Integer.Limits

/-!
# Which integers a filter admits

As far as integers go, a card is an assignment of one to each attribute. A filter admits the card if
each of its ranges has the card's integer (`Filter.Admits`); for the filter of a query these are the
ranges that the terms leave, attribute by attribute (`admits_compile_iff`).

Ranges are compared by their ends within the 64 bits: one covers another just if it has all of its
integers (`Range.covers_iff`).
-/

namespace CardCatalog

namespace Range

/-- The integer lies in the range. -/
def Contains (range : Range) (n : Int) : Prop :=
  (∀ low ∈ range.min, low ≤ n) ∧ ∀ high ∈ range.max, n ≤ high

instance (range : Range) (n : Int) : Decidable (range.Contains n) :=
  inferInstanceAs (Decidable (_ ∧ _))

/-- The lower end of the range, or the least integer of all. -/
def least (range : Range) : Int := range.min.getD Integer.lowest

/-- The upper end of the range, or the greatest integer of all. -/
def greatest (range : Range) : Int := range.max.getD Integer.highest

theorem isBounded_eq_false_iff {range : Range} : range.isBounded = false ↔ range = unbounded := by
  obtain ⟨min, max⟩ := range
  cases min <;> cases max <;> simp [isBounded, unbounded]

theorem contains_unbounded (n : Int) : unbounded.Contains n := by
  constructor <;> intro _ h <;> cases h

theorem contains_iff {range : Range} {n : Int} (hn : Integer.Fits n) :
    range.Contains n ↔ range.least ≤ n ∧ n ≤ range.greatest := by
  obtain ⟨min, max⟩ := range
  obtain ⟨hlow, hhigh⟩ := hn
  cases min <;> cases max <;> simp [Contains, least, greatest, hlow, hhigh]

/-- The ends fit, and there is an integer between them. -/
structure IsProper (range : Range) : Prop where
  lowest_le : Integer.lowest ≤ range.least
  least_le_greatest : range.least ≤ range.greatest
  greatest_le : range.greatest ≤ Integer.highest

theorem isProper_unbounded : unbounded.IsProper := ⟨by decide, by decide, by decide⟩

theorem isProper_ofComparison (operator : Operator) {n : Int} (hn : Integer.Fits n) :
    (ofComparison operator n).IsProper := by
  have hgreater := Integer.fits_clamp (n + 1)
  have hless := Integer.fits_clamp (n - 1)
  unfold Integer.Fits at hn hgreater hless
  cases operator <;> constructor <;>
    simp only [ofComparison, least, greatest, Option.getD_some, Option.getD_none] <;> omega

namespace IsProper

variable {range : Range} (h : range.IsProper)
include h

theorem fits_least : Integer.Fits range.least :=
  ⟨h.lowest_le, Int.le_trans h.least_le_greatest h.greatest_le⟩

theorem fits_greatest : Integer.Fits range.greatest :=
  ⟨Int.le_trans h.lowest_le h.least_le_greatest, h.greatest_le⟩

theorem contains_least : range.Contains range.least :=
  (contains_iff h.fits_least).2 ⟨Int.le_refl _, h.least_le_greatest⟩

theorem contains_greatest : range.Contains range.greatest :=
  (contains_iff h.fits_greatest).2 ⟨h.least_le_greatest, Int.le_refl _⟩

end IsProper

/-- The ends of the other range lie between those of the range. -/
def Covers (range other : Range) : Prop :=
  range.least ≤ other.least ∧ other.greatest ≤ range.greatest

instance (range other : Range) : Decidable (range.Covers other) :=
  inferInstanceAs (Decidable (_ ∧ _))

theorem covers_of_covers_unbounded {range other : Range} (h : range.Covers unbounded)
    (hother : other.IsProper) : range.Covers other :=
  ⟨Int.le_trans h.1 hother.lowest_le, Int.le_trans hother.greatest_le h.2⟩

/-- **A range covers another just if it has all of its integers.** -/
theorem covers_iff {range other : Range} (hother : other.IsProper) :
    range.Covers other ↔ ∀ n, Integer.Fits n → other.Contains n → range.Contains n := by
  constructor
  · rintro ⟨hleast, hgreatest⟩ n hn hcontains
    obtain ⟨hlow, hhigh⟩ := (contains_iff hn).1 hcontains
    exact (contains_iff hn).2 ⟨Int.le_trans hleast hlow, Int.le_trans hhigh hgreatest⟩
  · intro h
    have hleast := h _ hother.fits_least hother.contains_least
    have hgreatest := h _ hother.fits_greatest hother.contains_greatest
    exact ⟨((contains_iff hother.fits_least).1 hleast).1,
      ((contains_iff hother.fits_greatest).1 hgreatest).2⟩

end Range

/-- The integers of a card. -/
abbrev Card := Numeric → { n : Int // Integer.Fits n }

namespace Filter

/-- The card's integers lie in the ranges of the filter. -/
def Admits (filter : Filter) (card : Card) : Prop :=
  ∀ which, ∀ range ∈ filter.range? which, range.Contains (card which)

/-- The range of the filter on the attribute, without ends if there is none. -/
def bounds (filter : Filter) (which : Numeric) : Range := (filter.range? which).getD Range.unbounded

/-- A range without ends is not kept, and would have every integer. -/
theorem bounds_compile (policy : BoundPolicy) (query : Query) (which : Numeric) :
    (compile policy query).bounds which = range policy which query.terms := by
  simp only [bounds, range?, constraint_compile, constraintOf]
  cases hbounded : (range policy which query.terms).isBounded with
  | true => rfl
  | false => exact (Range.isBounded_eq_false_iff.1 hbounded).symm

theorem admits_iff (filter : Filter) (card : Card) :
    filter.Admits card ↔ ∀ which, (filter.bounds which).Contains (card which) := by
  refine forall_congr' fun which => ?_
  rw [bounds]
  cases filter.range? which with
  | none => simp [Range.contains_unbounded]
  | some range => simp

theorem admits_compile_iff (policy : BoundPolicy) (query : Query) (card : Card) :
    (compile policy query).Admits card ↔
      ∀ which, (range policy which query.terms).Contains (card which) := by
  simp only [admits_iff, bounds_compile]

theorem range_eq_unbounded (policy : BoundPolicy) {which : Numeric} {terms : List Term}
    (h : ∀ term ∈ terms, term.target ≠ .numeric which) :
    range policy which terms = Range.unbounded := by
  rw [range, onField_eq_nil h]
  rfl

end Filter

end CardCatalog
