import CardCatalog.Proofs.Text.Case
import CardCatalog.Proofs.Text.Pieces
import CardCatalog.Table
import Mathlib.Data.List.Basic

/-!
# Control characters

The first 32 characters stand for no sign: line feed and escape are among them. What the library
makes of a text has no control character that the text does not have. That is what `ControlsFrom`
says, and it holds of every step: of either case (`controlsFrom_lower`, `controlsFrom_upper`), of
pieces, of what is joined, cut or padded.
-/

namespace CardCatalog.Text

/-- The character is one of the first 32, which stand for no sign. -/
def isControl (c : Char) : Bool := c.toNat < 0x20

/-- The control characters of the text are in the source as well. -/
def ControlsFrom (source t : Text) : Prop := ∀ c ∈ t, isControl c = true → c ∈ source

variable {source s t : Text}

/-! ## Texts made of others -/

theorem controlsFrom_of_subset (h : t ⊆ source) : ControlsFrom source t := fun _ hc _ => h hc

/-- A text without control characters has them from anywhere. -/
theorem controlsFrom_of_all (source : Text) (h : t.all (fun c => !isControl c) = true) :
    ControlsFrom source t := by
  intro c hc hcontrol
  have hnot := List.all_eq_true.1 h c hc
  rw [hcontrol] at hnot
  cases hnot

/-- A text of one kind of character has them from anywhere if none of them is of this kind. -/
theorem controlsFrom_of_forall {p : Char → Bool} (hp : ∀ n : Fin 0x20, p (Char.ofNat n) = false)
    (source : Text) (h : ∀ c ∈ t, p c = true) : ControlsFrom source t := by
  intro c hc hcontrol
  have hnot := hp ⟨c.toNat, of_decide_eq_true hcontrol⟩
  rw [Char.ofNat_toNat, h c hc] at hnot
  cases hnot

namespace ControlsFrom

theorem of_subset (h : ControlsFrom source t) (hsub : s ⊆ t) : ControlsFrom source s :=
  fun c hc => h c (hsub hc)

theorem trans {between : Text} (h : ControlsFrom source between) (ht : ControlsFrom between t) :
    ControlsFrom source t :=
  fun c hc hcontrol => h c (ht c hc hcontrol) hcontrol

/-- What is without control characters has them from anywhere. -/
theorem of_nil (h : ControlsFrom [] t) (source : Text) : ControlsFrom source t :=
  fun c hc hcontrol => absurd (h c hc hcontrol) List.not_mem_nil

theorem append (hs : ControlsFrom source s) (ht : ControlsFrom source t) :
    ControlsFrom source (s ++ t) :=
  List.forall_mem_append.2 ⟨hs, ht⟩

/-- A text that stands between two without control characters. -/
theorem between (h : ControlsFrom source t) {front back : Text}
    (hfront : front.all (fun c => !isControl c) = true)
    (hback : back.all (fun c => !isControl c) = true) : ControlsFrom source (front ++ t ++ back) :=
  ((controlsFrom_of_all source hfront).append h).append (controlsFrom_of_all source hback)

theorem not_mem (h : ControlsFrom source t) {c : Char} (hcontrol : isControl c = true)
    (hc : c ∉ source) : c ∉ t :=
  fun hmem => hc (h c hmem hcontrol)

end ControlsFrom

theorem controlsFrom_nil (source : Text) : ControlsFrom source [] := nofun

theorem controlsFrom_flatMap {α : Type} {f : α → Text} {l : List α}
    (h : ∀ a ∈ l, ControlsFrom source (f a)) : ControlsFrom source (l.flatMap f) := by
  intro c hc
  obtain ⟨a, ha, hmem⟩ := List.mem_flatMap.1 hc
  exact h a ha c hmem

theorem controlsFrom_intercalate {separator : Text} {parts : List Text}
    (hseparator : ControlsFrom source separator) (h : ∀ part ∈ parts, ControlsFrom source part) :
    ControlsFrom source (List.intercalate separator parts) := by
  induction parts with
  | nil => exact controlsFrom_nil source
  | cons part rest ih =>
    obtain ⟨hpart, hrest⟩ := List.forall_mem_cons.1 h
    cases rest with
    | nil =>
      rw [List.intercalate_singleton]
      exact hpart
    | cons next rest =>
      rw [List.intercalate_cons_cons]
      exact (hpart.append hseparator).append (ih hrest)

/-! ## Case -/

theorem isMark_of_isControl {c : Char} (h : isControl c = true) : isMark c = true := by
  refine isMark_iff.2 ⟨(0x00, 0x40), by decide, Nat.zero_le _, ?_⟩
  have hlt : c.toNat < 0x20 := of_decide_eq_true h
  omega

theorem controlsFrom_lower (t : Text) : ControlsFrom t (lower t) :=
  fun _ hc hcontrol => ((lowered_lower t).mem_iff_of_isMark (isMark_of_isControl hcontrol)).1 hc

/-- No run of large characters leads to a control character, or to what is no character. -/
theorem upperRuns_avoid_controls : ∀ run ∈ upperRuns, 0x20 ≤ run.target ∧
    (run.lastImage < 0xD800 ∨ 0xDFFF < run.target ∧ run.lastImage < 0x110000) := by
  decide +kernel

theorem upperExpansions_avoid_controls : ∀ pair ∈ upperExpansions, ∀ code ∈ pair.2,
    isControl (Char.ofNat code) = false := by
  decide +kernel

/-- A control character is the large form of itself alone. -/
theorem eq_of_mem_upperChar {c d : Char} (hd : d ∈ upperChar c) (hcontrol : isControl d = true) :
    d = c := by
  unfold upperChar mapCase at hd
  split at hd
  · next codes hcodes =>
    obtain ⟨before, after, hexpansions, -⟩ := List.lookup_eq_some_iff.1 hcodes
    obtain ⟨code, hcode, rfl⟩ := List.mem_map.1 hd
    rw [upperExpansions_avoid_controls (c.toNat, codes) (by rw [hexpansions]; simp) code hcode]
      at hcontrol
    cases hcontrol
  · split at hd
    · next run hrun =>
      obtain rfl := List.mem_singleton.1 hd
      obtain ⟨htarget, hvalid⟩ := upperRuns_avoid_controls run (List.mem_of_find?_eq_some hrun)
      have hcovers : run.covers c.toNat = true :=
        List.find?_some (p := (CaseRun.covers · c.toNat)) hrun
      have hle := CaseRun.image_le hcovers
      have hlt : (Char.ofNat (run.image c.toNat)).toNat < 0x20 := of_decide_eq_true hcontrol
      rw [CaseRun.toNat_ofNat_image hvalid hcovers] at hlt
      omega
    · exact List.mem_singleton.1 hd

theorem controlsFrom_upper (t : Text) : ControlsFrom t (upper t) := by
  intro d hd hcontrol
  obtain ⟨c, hc, hmem⟩ := List.mem_flatMap.1 hd
  rw [eq_of_mem_upperChar hmem hcontrol]
  exact hc

/-! ## Pieces -/

theorem trimStart_subset (t : Text) : trimStart t ⊆ t := (List.dropWhile_sublist _).subset

theorem trim_subset (t : Text) : trim t ⊆ t := by
  intro c hc
  have hmem := trimStart_subset _ (List.mem_reverse.1 hc)
  exact trimStart_subset t (List.mem_reverse.1 hmem)

theorem subset_of_mem_pieces {sep : Char → Bool} {piece : Text} (h : piece ∈ pieces sep t) :
    piece ⊆ t := by
  have hall : ∀ piece ∈ pieces sep t, ∀ c ∈ piece, c ∈ t :=
    forall_mem_pieces_iff.2 fun c hc => Or.inr hc
  exact fun c hc => hall piece h c hc

/-! ## Numbers -/

theorem controlsFrom_ofNat (source : Text) (n : Nat) : ControlsFrom source (ofNat n) :=
  controlsFrom_of_forall (by decide) source fun _ hc =>
    Nat.isDigit_of_mem_toDigits (by decide) (by decide) hc

theorem controlsFrom_ofInt (source : Text) (n : Int) : ControlsFrom source (ofInt n) := by
  cases n with
  | ofNat n => exact controlsFrom_ofNat source n
  | negSucc n =>
    exact (controlsFrom_of_all (t := ['-']) source (by decide)).append
      (controlsFrom_ofNat source (n + 1))

/-! ## Cells -/

theorem controlsFrom_padRight (h : ControlsFrom source t) (width : Nat) :
    ControlsFrom source (padRight width t) := by
  refine h.append fun c hc hcontrol => ?_
  rw [List.eq_of_mem_replicate hc] at hcontrol
  cases hcontrol

end CardCatalog.Text
