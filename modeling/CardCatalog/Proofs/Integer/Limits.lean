import CardCatalog.Integer

/-!
# The limits of integers

An integer fits if it lies between the least and the greatest one that a card can hold. Clamping
makes it fit and changes no integer that does (`clamp_eq_self_iff`), and whatever is read fits
(`fits_of_read?`).
-/

namespace CardCatalog.Integer

/-- A card can hold the integer. -/
def Fits (n : Int) : Prop := lowest ≤ n ∧ n ≤ highest

instance (n : Int) : Decidable (Fits n) := inferInstanceAs (Decidable (_ ∧ _))

theorem fits_zero : Fits 0 := by decide

theorem fits_clamp (n : Int) : Fits (clamp n) := by
  unfold Fits clamp lowest highest
  omega

theorem clamp_eq_self_iff {n : Int} : clamp n = n ↔ Fits n := by
  unfold Fits clamp lowest highest
  omega

theorem fits_of_readDigits? {sign value n : Int} {t : Text} (hvalue : Fits value)
    (h : readDigits? sign value t = some n) : Fits n := by
  induction t generalizing value with
  | nil =>
    cases h
    exact hvalue
  | cons c rest ih =>
    rw [readDigits?] at h
    cases hdigit : digit? c with
    | none => simp [hdigit] at h
    | some d =>
      simp only [hdigit] at h
      split at h
      · next hclamp => exact ih (clamp_eq_self_iff.1 hclamp) h
      · cases h
        exact fits_clamp _

theorem fits_of_readUnsigned? {sign n : Int} {t : Text} (h : readUnsigned? sign t = some n) :
    Fits n := by
  unfold readUnsigned? at h
  split at h
  · cases h
  · exact fits_of_readDigits? fits_zero h

/-- **An integer that is read fits.** -/
theorem fits_of_read? {t : Text} {n : Int} (h : read? t = some n) : Fits n := by
  unfold read? at h
  split at h <;> exact fits_of_readUnsigned? h

end CardCatalog.Integer
