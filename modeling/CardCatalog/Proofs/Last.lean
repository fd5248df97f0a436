import Mathlib.Data.List.Basic

/-!
# The last of several values

A value that is replaced again and again is in the end the one that came last (`foldl_or`).
-/

namespace CardCatalog

variable {α β : Type}

/-- Where each value replaces the one before it, the last one stays. -/
theorem foldl_or (value? : α → Option β) (as : List α) (start : Option β) :
    as.foldl (fun current a => (value? a).or current) start =
      (as.filterMap value?).getLast?.or start := by
  induction as generalizing start with
  | nil => rfl
  | cons a rest ih =>
    rw [List.foldl_cons, ih]
    cases hvalue : value? a with
    | none => rw [List.filterMap_cons_none hvalue, Option.none_or]
    | some b =>
      rw [List.filterMap_cons_some hvalue, List.getLast?_cons]
      cases (rest.filterMap value?).getLast? <;> rfl

end CardCatalog
