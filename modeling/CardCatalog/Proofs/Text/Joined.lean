import CardCatalog.Proofs.Text.Case
import CardCatalog.Proofs.Text.Pieces

/-!
# The small form of joined texts

Which of the two small sigmas stands for a capital one hangs on the letters around it, through
whatever case passes over. It never hangs on what is behind a gap: a character without case that case
does not pass over. So texts that are joined by such a character are put into small letters one by
one (`lower_intercalate`).
-/

namespace CardCatalog.Text

/-- Words end at the character: it has no case, and case does not pass over it. -/
def isGap (c : Char) : Bool := !caseIgnorableRanges.contains c && !casedRanges.contains c

variable {gap : Char} (hgap : isGap gap = true)
include hgap

/-- What is behind a gap has no say in whether a letter with case comes first. -/
theorem startsCased_append_gap (t rest : Text) :
    startsCased (t ++ gap :: rest) = startsCased t := by
  obtain ⟨hignorable, hcased⟩ := Bool.and_eq_true_iff.1 hgap
  rw [Bool.not_eq_true'] at hignorable hcased
  induction t with
  | nil =>
    unfold startsCased
    rw [List.nil_append, List.dropWhile_cons, hignorable, if_neg Bool.false_ne_true]
    exact hcased
  | cons c t ih =>
    unfold startsCased at ih ⊢
    rw [List.cons_append, List.dropWhile_cons, List.dropWhile_cons]
    by_cases hc : caseIgnorableRanges.contains c = true
    · rw [if_pos hc, if_pos hc]
      exact ih
    · rw [if_neg hc, if_neg hc]

theorem lowerAfter_append_gap (before rest t : Text) :
    lowerAfter (before ++ gap :: rest) t = lowerAfter before t := by
  induction t generalizing before with
  | nil => rfl
  | cons c t ih =>
    rw [lowerAfter, lowerAfter, endsWord, endsWord, startsCased_append_gap hgap,
      ← List.cons_append, ih]

theorem ne_sigma_of_isGap : gap ≠ 'Σ' := by
  rintro rfl
  revert hgap
  decide +kernel

/-- **The texts on the two sides of a gap have their small forms each for itself.** -/
theorem lowerAfter_gap (before s t : Text) :
    lowerAfter before (s ++ gap :: t) = lowerAfter before s ++ (lowerChar gap ++ lower t) := by
  induction s generalizing before with
  | nil =>
    have hbehind : lowerAfter (gap :: before) t = lower t := lowerAfter_append_gap hgap [] before t
    show (if gap = 'Σ' then _ else lowerChar gap) ++ lowerAfter (gap :: before) t =
      [] ++ (lowerChar gap ++ lower t)
    rw [if_neg (ne_sigma_of_isGap hgap), hbehind, List.nil_append]
  | cons c s ih =>
    rw [List.cons_append, lowerAfter, lowerAfter, endsWord, endsWord,
      startsCased_append_gap hgap, ih, List.append_assoc]

theorem lower_intercalate (hmark : isMark gap = true) (parts : List Text) :
    lower (List.intercalate [gap] parts) = List.intercalate [gap] (parts.map lower) := by
  induction parts with
  | nil => rfl
  | cons part rest ih =>
    cases rest with
    | nil => simp only [List.map_cons, List.map_nil, List.intercalate_singleton]
    | cons next rest =>
      rw [List.map_cons] at ih
      rw [List.map_cons, List.map_cons, List.intercalate_cons_cons, List.intercalate_cons_cons,
        ← ih, List.append_assoc, List.append_assoc, List.singleton_append, lower,
        lowerAfter_gap hgap, lowerChar_of_isMark hmark]
      rfl

end CardCatalog.Text
