import CardCatalog.Proofs.Integer.Numeral
import Mathlib.Data.List.Infix

/-!
# Which texts are read as integers

Reading stops at the digit at which the limits are left, and what stands behind it is not looked
at. So a text is read if it is an integer, and also if it only begins with an integer beyond the
limits (`read?_eq_some_iff`). The latter is the one way in which a text that is no integer is read
as one (`read?_eq_map_clamp_iff`).
-/

namespace CardCatalog.Integer

section Sign

variable {sign : Int}

/-- What is read of digits is a start of them: all, or as much as leaves the limits. -/
theorem exists_prefix_of_readDigits? {t : Text} {v : Nat} {n : Int} (hv : Fits (sign * v))
    (h : readDigits? sign (sign * v) t = some n) :
    ∃ digits, digits <+: t ∧ (∀ c ∈ digits, c.isDigit = true) ∧
      (digits = t ∨ ¬ Fits (sign * Nat.ofDigitChars 10 digits v)) ∧
      clamp (sign * Nat.ofDigitChars 10 digits v) = n := by
  induction t generalizing v with
  | nil =>
    refine ⟨[], List.prefix_rfl, by simp, Or.inl rfl, ?_⟩
    rw [Nat.ofDigitChars_nil, clamp_eq_self_iff.2 hv]
    exact Option.some.inj h
  | cons c rest ih =>
    by_cases hc : c.isDigit = true
    · rw [readDigits?_cons hc] at h
      split at h
      · next hfits =>
        obtain ⟨digits, hstart, hdigits, hend, rfl⟩ := ih (clamp_eq_self_iff.1 hfits) h
        refine ⟨c :: digits, (List.prefix_cons_inj c).2 hstart,
          List.forall_mem_cons.2 ⟨hc, hdigits⟩, ?_, by rw [Nat.ofDigitChars_cons]⟩
        rw [Nat.ofDigitChars_cons]
        exact hend.imp_left (congrArg (c :: ·))
      · next hleaves =>
        refine ⟨[c], ⟨rest, rfl⟩, by simpa using hc, Or.inr ?_, ?_⟩
        · rw [Nat.ofDigitChars_cons, Nat.ofDigitChars_nil]
          exact mt clamp_eq_self_iff.2 hleaves
        · rw [Nat.ofDigitChars_cons, Nat.ofDigitChars_nil]
          exact Option.some.inj h
    · simp [readDigits?, digit?, hc] at h

theorem exists_prefix_of_readUnsigned? {t : Text} {n : Int} (h : readUnsigned? sign t = some n) :
    ∃ digits k, digits <+: t ∧ natural? digits = some k ∧ (digits = t ∨ ¬ Fits (sign * k)) ∧
      clamp (sign * k) = n := by
  rw [readUnsigned?] at h
  split at h
  · cases h
  · next hne =>
    have hzero : Fits (sign * (0 : Nat)) := by simpa using fits_zero
    obtain ⟨digits, hstart, hdigits, hend, hn⟩ :=
      exists_prefix_of_readDigits? hzero (by simpa using h)
    have hdigits_ne : digits ≠ [] := by
      rintro rfl
      rcases hend with rfl | hbeyond
      · exact hne rfl
      · exact hbeyond (by simpa using fits_zero)
    exact ⟨digits, _, hstart, natural?_eq_some_iff.2 ⟨hdigits_ne, hdigits, rfl⟩, hend, hn⟩

end Sign

/-- What can stand in front of the digits, with the direction in which they count. -/
def signs : List (Text × Int) := [("+", 1), ("-", -1), ("", 1)]

theorem exists_sign (t : Text) : ∃ lead sign body, (lead, sign) ∈ signs ∧ t = lead ++ body ∧
    read? t = readUnsigned? sign body ∧ denoted? t = (natural? body).map fun k : Nat => sign * k := by
  unfold read? denoted?
  split
  · next digits => exact ⟨"+", 1, digits, by decide, rfl, rfl, by simp⟩
  · next digits => exact ⟨"-", -1, digits, by decide, rfl, rfl, by simp⟩
  · exact ⟨"", 1, t, by decide, rfl, rfl, by simp⟩

/-- A sign is read off in front of digits. -/
theorem read?_lead_append {lead body : Text} {sign : Int} (h : (lead, sign) ∈ signs)
    (hbody : ∃ c ∈ body.head?, c.isDigit = true) :
    read? (lead ++ body) = readUnsigned? sign body ∧
      denoted? (lead ++ body) = (natural? body).map fun k : Nat => sign * k := by
  simp only [signs, List.mem_cons, Prod.mk.injEq, List.not_mem_nil, or_false] at h
  rcases h with ⟨rfl, rfl⟩ | ⟨rfl, rfl⟩ | ⟨rfl, rfl⟩
  · exact ⟨rfl, by simp [denoted?]⟩
  · exact ⟨rfl, by simp [denoted?]⟩
  · obtain ⟨c, hhead, hc⟩ := hbody
    obtain ⟨rest, rfl⟩ := List.head?_eq_some_iff.1 hhead
    have hplus : c ≠ '+' := by
      rintro rfl
      exact absurd hc (by decide)
    have hminus : c ≠ '-' := by
      rintro rfl
      exact absurd hc (by decide)
    exact ⟨by simp [read?, hplus, hminus], by simp [denoted?, hplus, hminus]⟩

theorem exists_head?_of_natural? {digits : Text} {k : Nat} (h : natural? digits = some k)
    (rest : Text) : ∃ c ∈ (digits ++ rest).head?, c.isDigit = true := by
  obtain ⟨hne, hdigits, -⟩ := natural?_eq_some_iff.1 h
  obtain ⟨c, digits, rfl⟩ := List.exists_cons_of_ne_nil hne
  exact ⟨c, rfl, hdigits c List.mem_cons_self⟩

theorem sign_eq {lead : Text} {sign : Int} (h : (lead, sign) ∈ signs) : sign = 1 ∨ sign = -1 := by
  have key : ∀ pair ∈ signs, pair.2 = 1 ∨ pair.2 = -1 := by decide
  exact key _ h

/-- **A text is read if it is an integer or begins with one beyond the limits**, and what is read is
the integer of the limits nearest to that one. -/
theorem read?_eq_some_iff {t : Text} {n : Int} :
    read? t = some n ↔ ∃ front m, front <+: t ∧ denoted? front = some m ∧
      (front = t ∨ ¬ Fits m) ∧ clamp m = n := by
  constructor
  · intro h
    obtain ⟨lead, sign, body, hsign, rfl, hread, -⟩ := exists_sign t
    rw [hread] at h
    obtain ⟨digits, k, hstart, hk, hend, hn⟩ := exists_prefix_of_readUnsigned? h
    have hdigit := exists_head?_of_natural? hk []
    rw [List.append_nil] at hdigit
    refine ⟨lead ++ digits, sign * k, (List.prefix_append_right_inj lead).2 hstart, ?_,
      hend.imp_left (congrArg (lead ++ ·)), hn⟩
    rw [(read?_lead_append hsign hdigit).2, hk]
    rfl
  · rintro ⟨front, m, ⟨rest, rfl⟩, hm, hend, rfl⟩
    obtain ⟨lead, sign, body, hsign, rfl, -, hdenoted⟩ := exists_sign front
    rw [hdenoted] at hm
    obtain ⟨k, hk, rfl⟩ := Option.map_eq_some_iff.1 hm
    have hend' : rest = [] ∨ ¬ Fits (sign * k) :=
      hend.imp_left List.self_eq_append_right.1
    rw [List.append_assoc, (read?_lead_append hsign (exists_head?_of_natural? hk rest)).1,
      readUnsigned?_append (sign_eq hsign) hk hend']

/-- The text is no integer, but it begins with one beyond the limits. -/
structure BreaksOff (t : Text) : Prop where
  denoted?_eq : denoted? t = none
  begins : ∃ front m, front <+: t ∧ denoted? front = some m ∧ ¬ Fits m

/-- **What is read is the integer that the text denotes, clamped, or nothing if it denotes none**,
unless the text begins with an integer beyond the limits and goes on with something else. -/
theorem read?_eq_map_clamp_iff (t : Text) :
    read? t = (denoted? t).map clamp ↔ ¬ BreaksOff t := by
  constructor
  · rintro h ⟨hnone, front, m, hstart, hm, hbeyond⟩
    rw [read?_eq_some_iff.2 ⟨front, m, hstart, hm, Or.inr hbeyond, rfl⟩, hnone] at h
    cases h
  · intro h
    cases ht : denoted? t with
    | some m => exact read?_of_denoted? ht
    | none =>
      refine Option.eq_none_iff_forall_ne_some.2 fun n hn => ?_
      obtain ⟨front, m, hstart, hm, rfl | hbeyond, -⟩ := read?_eq_some_iff.1 hn
      · rw [ht] at hm
        cases hm
      · exact h ⟨ht, front, m, hstart, hm, hbeyond⟩

/-- A letter behind digits that leave the limits is not seen. -/
theorem letter_behind_limits_is_read :
    ¬ ∀ t, read? t = (denoted? t).map clamp := by
  intro h
  have := h "99999999999999999999x"
  revert this
  decide +kernel

end CardCatalog.Integer
