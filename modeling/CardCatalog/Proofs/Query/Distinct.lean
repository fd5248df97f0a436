import Mathlib.Data.List.Basic

/-!
# Lists with every element once

The elements of a list in order of first occurrence (`List.eraseDups`): a sublist of the list, and
the same whether elements are told apart by themselves or by names that determine them
(`eraseDups_map`). Leaving elements out commutes with leaving out repetitions (`eraseDups_filter`).

All of it goes by induction on the list without the later occurrences of its first element
(`eraseDups_induction`).
-/

namespace CardCatalog

variable {α β : Type*}

/-- What holds of a list if it holds of the rest without the first element holds of all lists. -/
@[elab_as_elim]
theorem eraseDups_induction [BEq α] {P : List α → Prop} (nil : P [])
    (cons : ∀ a l, P (l.filter fun b => !b == a) → P (a :: l)) (l : List α) : P l := by
  induction hlength : l.length using Nat.strongRecOn generalizing l with
  | ind n ih =>
    cases l with
    | nil => exact nil
    | cons a l =>
      have hlt : (l.filter fun b => !b == a).length < n :=
        hlength ▸ Nat.lt_succ_of_le (List.length_filter_le _ l)
      exact cons a l (ih _ hlt _ rfl)

/-- Elements are left out, and nothing else is done. -/
theorem eraseDups_sublist [BEq α] (l : List α) : l.eraseDups.Sublist l := by
  induction l using eraseDups_induction with
  | nil => exact List.Sublist.refl []
  | cons a l ih =>
    rw [List.eraseDups_cons]
    exact (ih.trans List.filter_sublist).cons_cons a

theorem nodup_eraseDups [BEq α] [LawfulBEq α] (l : List α) : l.eraseDups.Nodup := by
  induction l using eraseDups_induction with
  | nil => exact List.nodup_nil
  | cons a l ih =>
    rw [List.eraseDups_cons, List.nodup_cons, List.mem_eraseDups]
    exact ⟨by simp, ih⟩

theorem eraseDups_of_forall_eq [BEq α] [LawfulBEq α] {a : α} {l : List α} (hne : l ≠ [])
    (h : ∀ b ∈ l, b = a) : l.eraseDups = [a] := by
  obtain ⟨b, rest, rfl⟩ := List.exists_cons_of_ne_nil hne
  obtain ⟨rfl, hrest⟩ := List.forall_mem_cons.1 h
  have : rest.filter (fun c => !c == b) = [] :=
    List.filter_eq_nil_iff.2 fun c hc => by simp [hrest c hc]
  rw [List.eraseDups_cons, this, List.eraseDups_nil]

/-- One more element is distinct unless it is there already. -/
theorem eraseDups_append_singleton [BEq α] [LawfulBEq α] (l : List α) (a : α) :
    (l ++ [a]).eraseDups = if a ∈ l then l.eraseDups else l.eraseDups ++ [a] := by
  rw [List.eraseDups_append, List.removeAll, List.filter_cons, List.filter_nil]
  by_cases ha : a ∈ l <;> simp [ha, List.eraseDups_cons]

/-- The first occurrences of the elements that stay are those in the whole list. -/
theorem eraseDups_filter [BEq α] [LawfulBEq α] (keep : α → Bool) (l : List α) :
    (l.filter keep).eraseDups = l.eraseDups.filter keep := by
  induction l using eraseDups_induction with
  | nil => rfl
  | cons a l ih =>
    rw [List.filter_comm] at ih
    rw [List.eraseDups_cons, List.filter_cons, List.filter_cons]
    cases ha : keep a with
    | true => rw [if_pos rfl, if_pos rfl, List.eraseDups_cons, ih]
    | false =>
      -- the first element is no longer there to be left out
      have hrest : (l.filter keep).filter (fun b => !b == a) = l.filter keep := by
        refine List.filter_eq_self.2 fun b hb => ?_
        have hne : b ≠ a := by
          rintro rfl
          rw [(List.mem_filter.1 hb).2] at ha
          cases ha
        simpa using hne
      rw [if_neg Bool.false_ne_true, if_neg Bool.false_ne_true, ← ih, hrest]

/-- **Elements are distinct just if their names are**, where no two have one name. -/
theorem eraseDups_map [BEq α] [LawfulBEq α] [BEq β] [LawfulBEq β] {name : α → β} {l : List α}
    (h : ∀ a ∈ l, ∀ b ∈ l, name a = name b → a = b) :
    (l.map name).eraseDups = l.eraseDups.map name := by
  induction l using eraseDups_induction with
  | nil => rfl
  | cons a l ih =>
    have hfilter : (l.map name).filter (fun b => !b == name a) =
        (l.filter fun b => !b == a).map name := by
      rw [List.filter_map]
      congr 1
      refine List.filter_congr fun b hb => ?_
      have hname : name b = name a ↔ b = a :=
        ⟨h b (List.mem_cons_of_mem a hb) a List.mem_cons_self, fun heq => by rw [heq]⟩
      rw [Function.comp_apply, Bool.eq_iff_iff, Bool.not_eq_true', Bool.not_eq_true',
        beq_eq_false_iff_ne, beq_eq_false_iff_ne, Ne, hname]
    have hrest : ∀ b ∈ l.filter (fun b => !b == a), b ∈ a :: l := fun b hb =>
      List.mem_cons_of_mem a (List.mem_filter.1 hb).1
    rw [List.map_cons, List.eraseDups_cons, hfilter,
      ih fun b hb c hc => h b (hrest b hb) c (hrest c hc), List.eraseDups_cons, List.map_cons]

/-- Distinct names undone are distinct elements. -/
theorem map_eraseDups_map [BEq α] [LawfulBEq α] [BEq β] [LawfulBEq β] {name : α → β}
    {unname : β → α} {l : List α} (h : ∀ a ∈ l, unname (name a) = a) :
    (l.map name).eraseDups.map unname = l.eraseDups := by
  have hname : ∀ a ∈ l, ∀ b ∈ l, name a = name b → a = b := fun a ha b hb heq => by
    rw [← h a ha, heq, h b hb]
  have hundo : ∀ a ∈ l.eraseDups, (unname ∘ name) a = id a := fun a ha =>
    h a ((eraseDups_sublist l).mem ha)
  rw [eraseDups_map hname, List.map_map, List.map_congr_left hundo, List.map_id]

end CardCatalog
