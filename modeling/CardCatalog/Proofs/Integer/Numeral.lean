import CardCatalog.Proofs.Integer.Limits
import Mathlib.Tactic.Ring

/-!
# The integer that a text denotes

Reading stops where the limits are left, so the integer that is read need not be the one that the
text denotes. `denoted?` is that integer, however large; what is read is the integer of the limits
nearest to it (`read?_of_denoted?`).
-/

namespace CardCatalog.Integer

/-- The number with these decimal digits; none if there are no digits or other characters. -/
def natural? (digits : Text) : Option Nat :=
  if digits ≠ [] ∧ digits.all Char.isDigit = true then some (Nat.ofDigitChars 10 digits 0) else none

/-- The integer with these decimal digits, behind a sign or not. -/
def denoted? : Text → Option Int
  | '+' :: digits => (natural? digits).map fun n : Nat => (n : Int)
  | '-' :: digits => (natural? digits).map fun n : Nat => -(n : Int)
  | digits => (natural? digits).map fun n : Nat => (n : Int)

theorem natural?_eq_some_iff {digits : Text} {n : Nat} :
    natural? digits = some n ↔
      digits ≠ [] ∧ (∀ c ∈ digits, c.isDigit = true) ∧ Nat.ofDigitChars 10 digits 0 = n := by
  rw [natural?, Option.ite_none_right_eq_some, Option.some.injEq, and_assoc, List.all_eq_true]

/-- Further digits do not make a number smaller. -/
theorem le_ofDigitChars (digits : Text) (value : Nat) :
    value ≤ Nat.ofDigitChars 10 digits value := by
  induction digits generalizing value with
  | nil => exact Nat.le_refl _
  | cons c rest ih =>
    rw [Nat.ofDigitChars_cons]
    exact Nat.le_trans (by omega) (ih _)

/-- One digit more, while the limits are not left. -/
theorem readDigits?_cons {sign : Int} {c : Char} (hc : c.isDigit = true) (v : Nat) (rest : Text) :
    let next : Int := sign * (10 * v + (c.toNat - '0'.toNat) : Nat)
    readDigits? sign (sign * v) (c :: rest) =
      if clamp next = next then readDigits? sign next rest else some (clamp next) := by
  intro next
  have hdigit : digit? c = some (c.toNat - '0'.toNat) := if_pos hc
  have hnext : 10 * (sign * (v : Int)) + sign * ((c.toNat - '0'.toNat : Nat) : Int) = next := by
    simp only [next]
    push_cast
    ring
  rw [readDigits?, hdigit]
  simp only [hnext]

section Sign

variable {sign : Int} (hsign : sign = 1 ∨ sign = -1)
include hsign

/-- What leaves the limits does not come back farther from zero. -/
theorem clamp_of_le_of_leaves {v w : Nat} (hle : v ≤ w) (hleaves : clamp (sign * v) ≠ sign * v) :
    clamp (sign * w) = clamp (sign * v) := by
  unfold clamp lowest highest at *
  rcases hsign with rfl | rfl <;> omega

/-- Digits are read to their end, or up to the one at which the limits are left. -/
theorem readDigits?_append {digits rest : Text} (hdigits : ∀ c ∈ digits, c.isDigit = true) {v : Nat}
    (hv : Fits (sign * v)) (hend : rest = [] ∨ ¬ Fits (sign * Nat.ofDigitChars 10 digits v)) :
    readDigits? sign (sign * v) (digits ++ rest) =
      some (clamp (sign * Nat.ofDigitChars 10 digits v)) := by
  induction digits generalizing v with
  | nil =>
    obtain rfl : rest = [] := hend.resolve_right (not_not_intro hv)
    rw [List.append_nil, readDigits?, Nat.ofDigitChars_nil, clamp_eq_self_iff.2 hv]
  | cons c digits ih =>
    obtain ⟨hc, hdigits⟩ := List.forall_mem_cons.1 hdigits
    rw [Nat.ofDigitChars_cons] at hend ⊢
    rw [List.cons_append, readDigits?_cons hc]
    split
    · next hfits => exact ih hdigits (clamp_eq_self_iff.1 hfits) hend
    · next hleaves => rw [clamp_of_le_of_leaves hsign (le_ofDigitChars digits _) hleaves]

theorem readUnsigned?_append {digits rest : Text} {n : Nat} (h : natural? digits = some n)
    (hend : rest = [] ∨ ¬ Fits (sign * n)) :
    readUnsigned? sign (digits ++ rest) = some (clamp (sign * n)) := by
  obtain ⟨hne, hdigits, rfl⟩ := natural?_eq_some_iff.1 h
  have hzero : Fits (sign * (0 : Nat)) := by simpa using fits_zero
  rw [readUnsigned?, if_neg (List.append_ne_nil_of_left_ne_nil hne rest)]
  simpa using readDigits?_append hsign hdigits hzero hend

end Sign

/-- **What is read is the integer of the limits nearest to the one that the text denotes.** -/
theorem read?_of_denoted? {t : Text} {m : Int} (h : denoted? t = some m) :
    read? t = some (clamp m) := by
  unfold denoted? at h
  unfold read?
  split at h <;>
    obtain ⟨n, hn, rfl⟩ := Option.map_eq_some_iff.1 h
  · simpa using readUnsigned?_append (Or.inl rfl) hn (Or.inl rfl)
  · simpa using readUnsigned?_append (Or.inr rfl) hn (Or.inl rfl)
  · simpa using readUnsigned?_append (Or.inl rfl) hn (Or.inl rfl)

end CardCatalog.Integer
