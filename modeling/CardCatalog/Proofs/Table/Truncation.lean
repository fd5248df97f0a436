import CardCatalog.Table

/-!
# Cells cut to a limit

A text that is too long for its cell is cut to a start of it and three dots. The dots are never cut
themselves: a limit without room for them is exceeded (`length_truncate_of_lt`,
`dots_exceed_limit`). So a cell keeps to its limit just if the limit is three or more, or nothing is
cut (`truncate_keeps_limit_iff`). A cut to a wide limit does not show behind one to a narrow limit
(`truncate_truncate`).
-/

namespace CardCatalog.Table

variable {limit : Nat} {t : Text}

theorem truncate_of_length_le (h : t.length ≤ limit) : truncate limit t = t :=
  if_neg (Nat.not_lt.2 h)

theorem truncate_of_lt (h : limit < t.length) :
    truncate limit t = t.take (limit - 3) ++ "..." :=
  if_pos h

theorem length_dots : ("..." : Text).length = 3 := by decide

/-- What is left of a text that is cut fills the limit, or is the three dots. -/
theorem length_truncate_of_lt (h : limit < t.length) :
    (truncate limit t).length = max limit 3 := by
  rw [truncate_of_lt h, List.length_append, List.length_take, length_dots]
  omega

theorem length_truncate_le_iff :
    (truncate limit t).length ≤ limit ↔ t.length ≤ limit ∨ 3 ≤ limit := by
  rcases Nat.lt_or_ge limit t.length with hlong | hshort
  · rw [length_truncate_of_lt hlong]
    omega
  · rw [truncate_of_length_le hshort]
    exact ⟨.inl, fun _ => hshort⟩

/-- The limit of the tables has room for the dots. -/
theorem length_truncate_cellWidth_le (t : Text) : (truncate cellWidth t).length ≤ cellWidth :=
  length_truncate_le_iff.2 (.inr (by decide))

/-- **The narrower of two cuts decides.** -/
theorem truncate_truncate {narrow wide : Nat} (h : narrow ≤ wide) (t : Text) :
    truncate narrow (truncate wide t) = truncate narrow t := by
  rcases Nat.lt_or_ge wide t.length with hlong | hshort
  · have hlength := length_truncate_of_lt hlong
    rcases Nat.lt_or_ge narrow (truncate wide t).length with hcut | hfits
    · have hstart : narrow - 3 ≤ (t.take (wide - 3)).length := by
        rw [List.length_take]
        omega
      have hkept : (truncate wide t).take (narrow - 3) = t.take (narrow - 3) := by
        rw [truncate_of_lt hlong, List.take_append_of_le_length hstart, List.take_take,
          Nat.min_eq_left (Nat.sub_le_sub_right h 3)]
      rw [truncate_of_lt hcut, hkept, truncate_of_lt (Nat.lt_of_le_of_lt h hlong)]
    · -- What is cut fits a limit again only if both limits are one and have room for the dots.
      have hsame : narrow = wide := by omega
      rw [truncate_of_length_le hfits, hsame]
  · rw [truncate_of_length_le hshort]

/-- **A cell keeps to its limit just if the dots do, or nothing is cut.** A text within the limit
stays as it is. Of any other a start is kept, as long as there is room for beside the dots, and the
dots follow it. A cell that is cut to its limit again stays the same. -/
theorem truncate_keeps_limit_iff (limit : Nat) (t : Text) :
    ((truncate limit t).length ≤ limit ↔ t.length ≤ limit ∨ 3 ≤ limit) ∧
      (t.length ≤ limit → truncate limit t = t) ∧
      (limit < t.length →
        ∃ kept : Text,
          kept <+: t ∧ kept.length = limit - 3 ∧ truncate limit t = kept ++ "...") ∧
      truncate limit (truncate limit t) = truncate limit t := by
  refine ⟨length_truncate_le_iff, truncate_of_length_le, fun hlong => ?_,
    truncate_truncate (Nat.le_refl limit) t⟩
  have hroom : limit - 3 ≤ t.length := by omega
  exact ⟨t.take (limit - 3), List.take_prefix _ t, List.length_take_of_le hroom,
    truncate_of_lt hlong⟩

/-- Characters are counted, whatever their length in bytes. -/
theorem palace_cut_to_nine :
    let palace : Text := "Kyūden Doji Palace"
    let province : Text := "Kyūshū"
    9 < palace.length ∧ province.length ≤ 9 ∧ truncate 9 province = province ∧
      (truncate 9 palace).length ≤ 9 ∧
      ∃ kept : Text, kept <+: palace ∧ kept.length = 6 ∧ truncate 9 palace = kept ++ "..." := by
  intro palace province
  have hlong : 9 < palace.length := by decide
  have hshort : province.length ≤ 9 := by decide
  obtain ⟨hlimit, -, hcut, -⟩ := truncate_keeps_limit_iff 9 palace
  obtain ⟨-, hwhole, -, -⟩ := truncate_keeps_limit_iff 9 province
  exact ⟨hlong, hshort, hwhole hshort, hlimit.2 (.inr (by omega)), hcut hlong⟩

/-- Where there is no room for the dots, they are all that is left, and too long. -/
theorem dots_exceed_limit :
    let t : Text := "ab"
    truncate 0 t = "..." ∧ ¬(truncate 0 t).length ≤ 0 := by
  decide

end CardCatalog.Table
