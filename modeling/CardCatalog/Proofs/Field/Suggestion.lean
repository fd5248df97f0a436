import CardCatalog.Proofs.Field.Canonical
import CardCatalog.Proofs.Text.Distance

/-!
# Suggested names

What is suggested for a written name is the first of the names to which the fewest edits lead
(`isFirstNearest_of_nearest?`). No edit at all leads to a candidate just if the
written name stands for a known field (`lower_mem_candidates_iff`), so that a suggestion is made for
unknown names only, and for all of those that are near enough (`isFirstNearest_suggest?`).
-/

namespace CardCatalog.Field

/-! ## The nearest name -/

/-- The text is the first in the list among those to which the fewest edits lead from `name`, and `n`
edits lead to it. -/
structure IsFirstNearest (name : Text) (l : List Text) (nearest : Text) (n : Nat) : Prop where
  edits : Text.Edits n name nearest
  fewest : ∀ other ∈ l, ∀ m, Text.Edits m name other → n ≤ m
  first : ∃ before after, l = before ++ nearest :: after ∧ ∀ other ∈ before, ¬ Text.Edits n name other

namespace IsFirstNearest

variable {name candidate nearest : Text} {l : List Text} {n : Nat}

theorem mem (h : IsFirstNearest name l nearest n) : nearest ∈ l := by
  obtain ⟨before, after, rfl, -⟩ := h.first
  simp

/-- A candidate in front is the first nearest if it is as near as what was. -/
theorem of_le (h : ∀ other ∈ l, ∀ m, Text.Edits m name other → Text.distance name candidate ≤ m) :
    IsFirstNearest name (candidate :: l) candidate (Text.distance name candidate) where
  edits := Text.edits_distance name candidate
  fewest := List.forall_mem_cons.2 ⟨fun _ => Text.distance_le_of_edits, h⟩
  first := ⟨[], l, rfl, fun _ hother => nomatch hother⟩

/-- A candidate in front changes nothing if it is farther. -/
theorem cons (h : IsFirstNearest name l nearest n) (hfar : n < Text.distance name candidate) :
    IsFirstNearest name (candidate :: l) nearest n where
  edits := h.edits
  fewest := List.forall_mem_cons.2
    ⟨fun _ hm => hfar.le.trans (Text.distance_le_of_edits hm), h.fewest⟩
  first := by
    obtain ⟨before, after, rfl, hbefore⟩ := h.first
    refine ⟨candidate :: before, after, rfl, List.forall_mem_cons.2 ⟨fun hn => ?_, hbefore⟩⟩
    exact absurd (Text.distance_le_of_edits hn) (Nat.not_le_of_lt hfar)

end IsFirstNearest

theorem nearest?_eq_none_iff {name : Text} {l : List Text} : nearest? name l = none ↔ l = [] := by
  cases l with
  | nil => exact iff_of_true rfl rfl
  | cons candidate l =>
    refine iff_of_false ?_ (List.cons_ne_nil candidate l)
    rw [nearest?]
    split
    · exact Option.some_ne_none _
    · split <;> exact Option.some_ne_none _

/-- **The search finds the first of the nearest.** -/
theorem isFirstNearest_of_nearest? {name nearest : Text} {l : List Text} {n : Nat}
    (h : nearest? name l = some (nearest, n)) : IsFirstNearest name l nearest n := by
  induction l generalizing nearest n with
  | nil => cases h
  | cons candidate l ih =>
    rw [nearest?] at h
    split at h
    · next hnone =>
      obtain rfl := nearest?_eq_none_iff.1 hnone
      cases h
      exact IsFirstNearest.of_le (fun _ hother => nomatch hother)
    · next best hbest =>
      have hfirst := ih hbest
      split at h
      · next hle =>
        cases h
        exact IsFirstNearest.of_le fun other hother m hm => hle.trans (hfirst.fewest other hother m hm)
      · next hlt =>
        cases h
        exact hfirst.cons (Nat.lt_of_not_le hlt)

theorem exists_isFirstNearest (name : Text) {l : List Text} (hne : l ≠ []) :
    ∃ nearest n, IsFirstNearest name l nearest n ∧ nearest? name l = some (nearest, n) := by
  cases hnearest : nearest? name l with
  | none => exact absurd (nearest?_eq_none_iff.1 hnearest) hne
  | some best => exact ⟨best.1, best.2, isFirstNearest_of_nearest? hnearest, rfl⟩

/-! ## Names of known fields -/

theorem ofName_lower (written : Text) : ofName (Text.lower written) = ofName written := by
  rw [ofName, normalize, Text.lower_lower, ofName, normalize]

/-- **A name stands for a known field just if its small form is a candidate.** The candidates are
listed apart from the names under which fields are found; that both are the same names makes a
candidate of every name that is found, and the other way round. -/
theorem lower_mem_candidates_iff {written : Text} :
    Text.lower written ∈ candidates ↔ ofName written ∈ known := by
  constructor
  · intro h
    rw [← ofName_lower]
    exact ofName_mem_known_of_mem_candidates _ h
  · intro h
    cases hlookup : aliases.lookup (Text.lower written) with
    | some canonical =>
      obtain ⟨before, after, haliases, -⟩ := List.lookup_eq_some_iff.1 hlookup
      refine List.mem_append_right _ (List.mem_map.2 ⟨(Text.lower written, canonical), ?_, rfl⟩)
      rw [haliases]
      simp
    | none =>
      have hsmall : normalize written = Text.lower written := by simp [normalize, hlookup]
      have hname := canonicalName_mem_candidates h
      rwa [canonicalName_ofName, hsmall] at hname

/-! ## Suggestions -/

/-- What is suggested, and how near it is. -/
theorem suggest?_cases (written : Text) :
    ∃ nearest n, IsFirstNearest (Text.lower written) candidates nearest n ∧
      suggest? written = if 0 < n ∧ n ≤ farthest then some nearest else none := by
  have hne : candidates ≠ [] := List.append_ne_nil_of_right_ne_nil _ (List.cons_ne_nil _ _)
  obtain ⟨nearest, n, hfirst, hnearest⟩ := exists_isFirstNearest (Text.lower written) hne
  refine ⟨nearest, n, hfirst, ?_⟩
  unfold suggest?
  rw [hnearest]
  simp only [Bool.and_eq_true, decide_eq_true_eq]

theorem IsFirstNearest.eq_zero_iff {written nearest : Text} {n : Nat}
    (h : IsFirstNearest (Text.lower written) candidates nearest n) :
    n = 0 ↔ ofName written ∈ known := by
  rw [← lower_mem_candidates_iff]
  constructor
  · rintro rfl
    cases h.edits
    exact h.mem
  · intro hmem
    exact Nat.le_zero.1 (h.fewest _ hmem 0 (Text.Edits.done _))

/-- **Suggestions are right and usable.** No name is suggested just if the written one stands for a
known field, or more than three edits lead to every candidate. Otherwise it is the candidate to which
the fewest edits lead, the first of them if there are several, and it stands for a known field. The
candidates are the canonical names, the names of the integer fields and the aliases, in this order. -/
theorem isFirstNearest_suggest? (written : Text) :
    candidates = categorical.map canonicalName ++ Numeric.all.map Numeric.name ++
        aliases.map Prod.fst ∧
      (suggest? written = none ↔
        (∀ name, ofName written ≠ .other name) ∨
          ∀ candidate ∈ candidates, ∀ n, Text.Edits n (Text.lower written) candidate → 3 < n) ∧
      ∀ suggestion, suggest? written = some suggestion →
        (∃ n, IsFirstNearest (Text.lower written) candidates suggestion n) ∧
          ∀ name, ofName suggestion ≠ .other name := by
  obtain ⟨nearest, n, hnearest, hsuggest⟩ := suggest?_cases written
  refine ⟨candidates_eq, ?_, fun suggestion h => ?_⟩
  · have hfar : (∀ candidate ∈ candidates, ∀ m,
        Text.Edits m (Text.lower written) candidate → 3 < m) ↔ 3 < n :=
      ⟨fun h => h nearest hnearest.mem n hnearest.edits,
        fun h candidate hmem m hm => h.trans_le (hnearest.fewest candidate hmem m hm)⟩
    rw [hfar, ← mem_known_iff, ← hnearest.eq_zero_iff, hsuggest, farthest]
    split
    · next hnear =>
      apply iff_of_false (Option.some_ne_none nearest)
      omega
    · next hnear =>
      apply iff_of_true rfl
      omega
  · rw [hsuggest] at h
    split at h
    · cases h
      refine ⟨⟨n, hnearest⟩, ?_⟩
      rw [← mem_known_iff]
      exact ofName_mem_known_of_mem_candidates nearest hnearest.mem
    · cases h

theorem first_of_two_suggested :
    suggest? "SEXT" = some "text" ∧ Text.Edits 1 (Text.lower "SEXT") "set" ∧
      (∃ n, IsFirstNearest (Text.lower "SEXT") candidates "text" n) ∧
        ∀ name, ofName "text" ≠ .other name := by
  have hlower : Text.lower "SEXT" = ['s', 'e', 'x', 't'] := by decide +kernel
  have hsuggest : suggest? "SEXT" = some "text" := by decide +kernel
  refine ⟨hsuggest, ?_, (isFirstNearest_suggest? "SEXT").2.2 "text" hsuggest⟩
  rw [hlower]
  exact .step (((Text.Edit.delete 'x' ['t']).behind 'e').behind 's') (.done _)

end CardCatalog.Field
