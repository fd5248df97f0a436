import CardCatalog.Text.Blank
import Mathlib.Data.List.TakeWhile

/-!
# Where texts are cut

A text is cut behind its longest start of one kind of character (`takeWhile_append_stop`,
`dropWhile_append_stop`), or into the pieces between separators. What is said of pieces is said
character by character: every piece consists of characters of one kind just if every character of
the text is a separator or of that kind (`forall_mem_pieces_iff`). So a list of pieces without
anything in it is a text of separators and blanks (`forall_trim_pieces_iff`).
-/

namespace CardCatalog.Text

/-! ## Leading parts -/

section Leading

variable {p : Char → Bool} {s t : Text}

theorem takeWhile_append_stop (hs : ∀ c ∈ s, p c = true) (ht : ∀ c ∈ t.head?, p c = false) :
    (s ++ t).takeWhile p = s := by
  rw [List.takeWhile_append_of_pos hs]
  cases t with
  | nil => simp
  | cons c t => simp [ht c rfl]

theorem dropWhile_append_stop (hs : ∀ c ∈ s, p c = true) (ht : ∀ c ∈ t.head?, p c = false) :
    (s ++ t).dropWhile p = t := by
  rw [List.dropWhile_append_of_pos hs]
  cases t with
  | nil => rfl
  | cons c t => simp [ht c rfl]

/-- What follows the leading part does not begin with its kind of character. -/
theorem head?_dropWhile_stop (p : Char → Bool) (t : Text) :
    ∀ c ∈ (t.dropWhile p).head?, p c = false := by
  intro c hc
  have := List.head?_dropWhile_not p t
  rwa [Option.mem_def.1 hc] at this

end Leading

/-! ## Blank texts -/

theorem trimStart_eq_nil_iff {t : Text} : trimStart t = [] ↔ ∀ c ∈ t, isBlank c = true :=
  List.dropWhile_eq_nil_iff

theorem trim_eq_nil_iff {t : Text} : trim t = [] ↔ ∀ c ∈ t, isBlank c = true := by
  rw [trim, trimEnd, List.reverse_eq_nil_iff, trimStart_eq_nil_iff]
  constructor
  · intro h
    -- what is left at the start would begin with a character that is no blank
    refine trimStart_eq_nil_iff.1 ?_
    cases hstart : trimStart t with
    | nil => rfl
    | cons c rest =>
      have hc : isBlank c = false := head?_dropWhile_stop isBlank t c (by
        rw [← trimStart, hstart]
        rfl)
      have := h c (by simp [hstart])
      rw [hc] at this
      cases this
  · intro h c hc
    exact h c ((List.dropWhile_sublist _).mem (List.mem_reverse.1 hc))

theorem trimStart_eq_self {t : Text} (h : ∀ c ∈ t.head?, isBlank c = false) : trimStart t = t := by
  cases t with
  | nil => rfl
  | cons c t => rw [trimStart, List.dropWhile_cons, h c rfl, if_neg Bool.false_ne_true]

/-- A text without blanks at its ends stays as it is. -/
theorem trim_eq_self {t : Text} (hhead : ∀ c ∈ t.head?, isBlank c = false)
    (hlast : ∀ c ∈ t.getLast?, isBlank c = false) : trim t = t := by
  rw [trim, trimStart_eq_self hhead, trimEnd, trimStart_eq_self, List.reverse_reverse]
  rwa [List.head?_reverse]

/-! ## Pieces -/

theorem pieces_cons_sep {sep : Char → Bool} {c : Char} (h : sep c = true) (t : Text) :
    pieces sep (c :: t) = [] :: pieces sep t := by
  rw [pieces, if_pos h]

/-- A character that is no separator joins the first piece. -/
theorem exists_pieces_cons {sep : Char → Bool} {c : Char} (h : sep c = false) (t : Text) :
    ∃ piece rest, pieces sep t = piece :: rest ∧ pieces sep (c :: t) = (c :: piece) :: rest := by
  have hne : pieces sep t ≠ [] := by
    cases t with
    | nil => simp [pieces]
    | cons d t =>
      rw [pieces]
      split
      · simp
      · split <;> simp
  obtain ⟨piece, rest, hpieces⟩ := List.exists_cons_of_ne_nil hne
  refine ⟨piece, rest, hpieces, ?_⟩
  rw [pieces, if_neg (by simp [h]), hpieces]

theorem pieces_eq_splitOnP (sep : Char → Bool) (t : Text) : pieces sep t = t.splitOnP sep := by
  induction t with
  | nil => rw [pieces, List.splitOnP_nil]
  | cons c t ih =>
    rw [List.splitOnP_cons_eq_if_modifyHead, ← ih]
    cases hc : sep c with
    | true => rw [pieces_cons_sep hc, if_pos rfl]
    | false =>
      obtain ⟨piece, rest, hpieces, hcons⟩ := exists_pieces_cons hc t
      rw [hcons, hpieces, if_neg Bool.false_ne_true, List.modifyHead_cons]

/-- Texts without the separator are the pieces of the text into which it joins them. -/
theorem pieces_intercalate {separator : Char} {parts : List Text} (hne : parts ≠ [])
    (h : ∀ part ∈ parts, separator ∉ part) :
    pieces (· == separator) (List.intercalate [separator] parts) = parts := by
  rw [pieces_eq_splitOnP, ← List.splitOn_eq_splitOnP, List.splitOn_intercalate separator h hne]

/-- **Pieces hold what a text has besides separators.** -/
theorem forall_mem_pieces_iff {sep : Char → Bool} {P : Char → Prop} {t : Text} :
    (∀ piece ∈ pieces sep t, ∀ c ∈ piece, P c) ↔ ∀ c ∈ t, sep c = true ∨ P c := by
  induction t with
  | nil => simp [pieces]
  | cons c t ih =>
    rw [List.forall_mem_cons, ← ih]
    cases hc : sep c with
    | true => simp [pieces_cons_sep hc]
    | false =>
      obtain ⟨piece, rest, hpieces, hcons⟩ := exists_pieces_cons hc t
      rw [hcons, hpieces]
      simp only [List.forall_mem_cons, Bool.false_eq_true, false_or, and_assoc]

/-- The pieces are all blank just if the text has only separators and blanks. -/
theorem forall_trim_pieces_iff {sep : Char → Bool} {t : Text} :
    (∀ piece ∈ pieces sep t, trim piece = []) ↔ ∀ c ∈ t, sep c = true ∨ isBlank c = true := by
  rw [← forall_mem_pieces_iff]
  exact forall₂_congr fun _ _ => trim_eq_nil_iff

end CardCatalog.Text
