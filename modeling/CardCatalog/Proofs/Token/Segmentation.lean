import CardCatalog.Proofs.Text.Pieces
import CardCatalog.Token

/-!
# Segmentation

The tokens of an expression, said without reading it: `Segments offset t tokens` cuts the text `t`,
which stands at `offset`, into blanks and whole tokens. A token is whole if its blanks all stand in
quoted spans, and the text goes on behind it only with a blank outside of them.

* `segments_tokens`: the tokens that are read segment the text.
* `Segments.tokens_eq`: no other tokens do.
* `Segments.append`: texts that a blank outside quotes separates are segmented one by one; `scan_append`
  says so of the tokens that are read.
* `scan_intercalate`: whole tokens, written with spaces between them, are read as written.
-/

namespace CardCatalog

open Text

namespace Token

/-- A quoted span is open behind the text, which begins inside quotes if `quoted` holds. -/
def isOpen (quoted : Bool) (t : Text) : Bool := t.foldl (fun inside c => inside != (c == '"')) quoted

/-- The blanks of the text all stand in quoted spans. -/
def quotesBlanks (quoted : Bool) : Text → Bool
  | [] => true
  | c :: rest => (quoted || !isBlank c) && quotesBlanks (quoted != (c == '"')) rest

/-- The text can be a token. -/
structure IsWhole (t : Text) : Prop where
  ne_nil : t ≠ []
  blanks_quoted : quotesBlanks false t = true

/-- A token may end between the two texts, the first of which begins inside quotes if `quoted`
holds. -/
def EndsAt (quoted : Bool) (t rest : Text) : Prop :=
  ∀ c ∈ rest.head?, isOpen quoted t = false ∧ isBlank c = true

@[simp] theorem isOpen_nil (quoted : Bool) : isOpen quoted [] = quoted := rfl

@[simp] theorem isOpen_cons (quoted : Bool) (c : Char) (t : Text) :
    isOpen quoted (c :: t) = isOpen (quoted != (c == '"')) t := rfl

@[simp] theorem isOpen_append (quoted : Bool) (s t : Text) :
    isOpen quoted (s ++ t) = isOpen (isOpen quoted s) t := List.foldl_append

theorem ne_quote_of_isBlank {c : Char} (h : isBlank c = true) : (c == '"') = false := by
  rw [beq_eq_false_iff_ne]
  rintro rfl
  exact absurd h (by decide)

/-- Blanks open no quoted span. -/
theorem isOpen_of_blanks {ws : Text} (h : ∀ c ∈ ws, isBlank c = true) (quoted : Bool) :
    isOpen quoted ws = quoted := by
  induction ws with
  | nil => rfl
  | cons c ws ih =>
    rw [isOpen_cons, ne_quote_of_isBlank (h c (by simp)), Bool.bne_false]
    exact ih fun d hd => h d (by simp [hd])

/-! ## One token -/

/-- What is split off is whole, and ends where a token may end. -/
theorem cut_spec (quoted : Bool) (t : Text) :
    (cut quoted t).1 ++ (cut quoted t).2 = t ∧ quotesBlanks quoted (cut quoted t).1 = true ∧
      EndsAt quoted (cut quoted t).1 (cut quoted t).2 := by
  induction t generalizing quoted with
  | nil => simp [cut, quotesBlanks, EndsAt]
  | cons c rest ih =>
    obtain ⟨happ, hblanks, hends⟩ := ih (quoted != (c == '"'))
    rw [cut]
    split
    · next hc =>
      rw [Bool.and_eq_true, Bool.not_eq_true'] at hc
      refine ⟨rfl, rfl, fun d hd => ?_⟩
      obtain rfl : c = d := by simpa using hd
      exact ⟨hc.2, hc.1⟩
    · next hc =>
      refine ⟨by simp [happ], ?_, hends⟩
      have : (quoted || !isBlank c) = true := by
        revert hc
        cases quoted <;> cases isBlank c <;> simp
      simp only [quotesBlanks, this, hblanks, Bool.and_self]

/-- A whole token is split off where it ends. -/
theorem cut_append {quoted : Bool} {t rest : Text} (h : quotesBlanks quoted t = true)
    (hends : EndsAt quoted t rest) : cut quoted (t ++ rest) = (t, rest) := by
  induction t generalizing quoted with
  | nil =>
    cases rest with
    | nil => rfl
    | cons c rest =>
      obtain ⟨hopen, hc⟩ := hends c rfl
      rw [isOpen_nil] at hopen
      rw [List.nil_append, cut, hc, hopen]
      rfl
  | cons c t ih =>
    rw [quotesBlanks, Bool.and_eq_true] at h
    have hc : (isBlank c && !quoted) = false := by
      have := h.1
      revert this
      cases quoted <;> cases isBlank c <;> simp
    rw [List.cons_append, cut, hc, ih h.2 hends]
    rfl

theorem IsWhole.head_not_blank {t : Text} (h : IsWhole t) :
    ∃ c rest, t = c :: rest ∧ isBlank c = false := by
  obtain ⟨c, rest, rfl⟩ := List.exists_cons_of_ne_nil h.ne_nil
  refine ⟨c, rest, rfl, ?_⟩
  have := h.blanks_quoted
  rw [quotesBlanks, Bool.and_eq_true, Bool.false_or, Bool.not_eq_true'] at this
  exact this.1

end Token

open Token

namespace Cursor

/-- The next token behind blanks is the whole token that ends where a token may end. -/
theorem next?_append (offset : Nat) {ws t rest : Text} (hws : ∀ c ∈ ws, isBlank c = true)
    (ht : IsWhole t) (hends : EndsAt false t rest) :
    next? ⟨offset, ws ++ (t ++ rest)⟩ =
      some (⟨t, offset + utf8Size ws⟩, ⟨offset + utf8Size ws + utf8Size t, rest⟩) := by
  have hcut := cut_append ht.blanks_quoted hends
  obtain ⟨c, t', rfl, hc⟩ := ht.head_not_blank
  have hstop : ∀ d ∈ (c :: (t' ++ rest)).head?, isBlank d = false := by
    simpa using hc
  rw [List.cons_append] at hcut
  simp only [next?, List.cons_append, dropWhile_append_stop hws hstop,
    takeWhile_append_stop hws hstop, hcut]

theorem next?_blanks (offset : Nat) {ws : Text} (hws : ∀ c ∈ ws, isBlank c = true) :
    next? ⟨offset, ws⟩ = none := by
  have : ws.dropWhile isBlank = [] := List.dropWhile_eq_nil_iff.2 hws
  simp only [next?, this]

/-- Blanks in front, a whole token, and what follows it. -/
theorem of_next?_eq_some {cursor after : Cursor} {token : Token}
    (h : cursor.next? = some (token, after)) :
    ∃ ws, (∀ c ∈ ws, isBlank c = true) ∧ IsWhole token.text ∧
      EndsAt false token.text after.rest ∧
      cursor.rest = ws ++ (token.text ++ after.rest) ∧
      token.offset = cursor.offset + utf8Size ws ∧
      after.offset = cursor.offset + utf8Size ws + utf8Size token.text := by
  unfold next? at h
  split at h
  · cases h
  · next c rest hdrop =>
    have hc := not_isBlank_of_dropWhile_eq hdrop
    obtain ⟨happ, hblanks, hends⟩ := cut_spec false (c :: rest)
    have hrest : cursor.rest = cursor.rest.takeWhile isBlank ++ (c :: rest) := by
      rw [← hdrop, List.takeWhile_append_dropWhile]
    simp only [Option.some.injEq, Prod.mk.injEq] at h
    obtain ⟨rfl, rfl⟩ := h
    refine ⟨cursor.rest.takeWhile isBlank, fun d hd => ?_, ⟨?_, hblanks⟩, hends, ?_, rfl, rfl⟩
    · exact List.mem_takeWhile_imp hd
    · simp [cut, hc]
    · rw [happ, ← hrest]

theorem rest_blank_of_next?_eq_none {cursor : Cursor} (h : cursor.next? = none) :
    ∀ c ∈ cursor.rest, isBlank c = true := by
  unfold next? at h
  split at h
  · next hdrop => exact List.dropWhile_eq_nil_iff.1 hdrop
  · cases h

theorem tokens_of_none {cursor : Cursor} (h : cursor.next? = none) : cursor.tokens = [] := by
  rw [tokens]
  split
  · rfl
  · next hsome => rw [h] at hsome; cases hsome

theorem tokens_of_some {cursor after : Cursor} {token : Token}
    (h : cursor.next? = some (token, after)) : cursor.tokens = token :: after.tokens := by
  rw [tokens]
  split
  · next hnone => rw [h] at hnone; cases hnone
  · next hsome => rw [h] at hsome; cases hsome; rfl

end Cursor

/-! ## All tokens -/

namespace Token

/-- The text at `offset` is cut into these tokens, with blanks before, between and behind them. -/
inductive Segments : Nat → Text → List Token → Prop
  | nil {offset : Nat} {ws : Text} : (∀ c ∈ ws, isBlank c = true) → Segments offset ws []
  | cons {offset : Nat} {ws t rest : Text} {tokens : List Token} :
      (∀ c ∈ ws, isBlank c = true) → IsWhole t → EndsAt false t rest →
      Segments (offset + utf8Size ws + utf8Size t) rest tokens →
      Segments offset (ws ++ (t ++ rest)) (⟨t, offset + utf8Size ws⟩ :: tokens)

/-- **What is read is a segmentation.** -/
theorem segments_tokens (cursor : Cursor) :
    Segments cursor.offset cursor.rest cursor.tokens := by
  induction cursor using Cursor.tokens.induct with
  | case1 cursor hnone =>
    rw [Cursor.tokens_of_none hnone]
    exact Segments.nil (Cursor.rest_blank_of_next?_eq_none hnone)
  | case2 cursor token after hsome ih =>
    obtain ⟨ws, hws, ht, hends, hrest, hoffset, hafter⟩ := Cursor.of_next?_eq_some hsome
    rw [Cursor.tokens_of_some hsome, hrest]
    obtain ⟨t, start⟩ := token
    obtain rfl := hoffset
    exact Segments.cons hws ht hends (hafter ▸ ih)

/-- The token at another place, `k` bytes behind. -/
def shift (k : Nat) (token : Token) : Token := { token with offset := k + token.offset }

theorem utf8Size_append (s t : Text) : utf8Size (s ++ t) = utf8Size s + utf8Size t := by
  induction s with
  | nil => simp [utf8Size]
  | cons c s ih => simp only [List.cons_append, utf8Size, ih, Nat.add_assoc]

namespace Segments

variable {offset : Nat} {s t : Text} {tokens : List Token}

/-- **Nothing else is a segmentation.** -/
theorem tokens_eq (h : Segments offset s tokens) : Cursor.tokens ⟨offset, s⟩ = tokens := by
  induction h with
  | nil hws => exact Cursor.tokens_of_none (Cursor.next?_blanks _ hws)
  | cons hws ht hends _ ih => rw [Cursor.tokens_of_some (Cursor.next?_append _ hws ht hends), ih]

theorem shift (h : Segments offset s tokens) (k : Nat) :
    Segments (k + offset) s (tokens.map (Token.shift k)) := by
  induction h with
  | nil hws => exact Segments.nil hws
  | cons hws ht hends _ ih =>
    rw [List.map_cons, Token.shift, ← Nat.add_assoc]
    refine Segments.cons hws ht hends ?_
    rwa [Nat.add_assoc k, Nat.add_assoc k]

theorem blanks_append {ws : Text} (hws : ∀ c ∈ ws, isBlank c = true)
    (h : Segments (offset + utf8Size ws) s tokens) : Segments offset (ws ++ s) tokens := by
  cases h with
  | nil hs => exact Segments.nil (List.forall_mem_append.2 ⟨hws, hs⟩)
  | cons hs ht hends hrest =>
    rw [Nat.add_assoc offset, ← utf8Size_append] at hrest ⊢
    rw [← List.append_assoc]
    exact Segments.cons (List.forall_mem_append.2 ⟨hws, hs⟩) ht hends hrest

/-- **Texts with a blank between them, outside of quotes, are segmented one by one.** -/
theorem append (h : Segments offset s tokens) (hopen : isOpen false s = false) {c : Char}
    (hc : isBlank c = true) {more : List Token}
    (ht : Segments (offset + utf8Size (s ++ [c])) t more) :
    Segments offset (s ++ c :: t) (tokens ++ more) := by
  have hsplit : ∀ r : Text, r ++ c :: t = (r ++ [c]) ++ t := fun r => by simp
  induction h with
  | nil hws =>
    rw [hsplit]
    refine blanks_append (List.forall_mem_append.2 ⟨hws, ?_⟩) ht
    simpa using hc
  | @cons offset ws u rest tokens hws hu hends _ ih =>
    have hopen' : isOpen (isOpen false u) rest = false := by
      simpa [isOpen_of_blanks hws] using hopen
    -- the token is closed, be it the last of the first text or not
    have hclosed : isOpen false u = false := by
      cases rest with
      | nil => exact hopen'
      | cons d rest => exact (hends d rfl).1
    have hends' : EndsAt false u (rest ++ c :: t) := by
      refine fun d hd => ⟨hclosed, ?_⟩
      cases rest with
      | nil =>
        obtain rfl : c = d := by simpa using hd
        exact hc
      | cons e rest =>
        obtain rfl : e = d := by simpa using hd
        exact (hends e rfl).2
    rw [List.append_assoc, List.append_assoc]
    refine Segments.cons hws hu hends' (ih (by rwa [hclosed] at hopen') ?_)
    simpa [utf8Size_append, Nat.add_assoc] using ht

theorem isWhole (h : Segments offset s tokens) : ∀ u ∈ tokens.map (·.text), IsWhole u := by
  induction h with
  | nil _ => simp
  | cons _ ht _ _ ih => exact List.forall_mem_cons.2 ⟨ht, ih⟩

/-- Only the last token can have a quoted span open behind it. -/
theorem pairwise (h : Segments offset s tokens) :
    (tokens.map (·.text)).Pairwise fun u _ => isOpen false u = false := by
  induction h with
  | nil _ => exact List.Pairwise.nil
  | @cons offset ws u rest tokens _ _ hends hrest ih =>
    refine List.Pairwise.cons (fun v hv => ?_) ih
    cases rest with
    | nil =>
      -- behind an empty rest there is no token `v`
      rw [← hrest.tokens_eq, Cursor.tokens_of_none (Cursor.next?_blanks _ (by simp))] at hv
      cases hv
    | cons c rest => exact (hends c rfl).1

end Segments

/-! ## Expressions -/

theorem segments_scan (s : Text) : Segments 0 s (scan s) := segments_tokens ⟨0, s⟩

/-- **Texts with blanks between them, outside of quotes, are read one by one.** -/
theorem scan_append_blanks {s ws : Text} (hopen : isOpen false s = false) (hne : ws ≠ [])
    (hws : ∀ c ∈ ws, isBlank c = true) (t : Text) :
    scan (s ++ (ws ++ t)) = scan s ++ (scan t).map (shift (utf8Size (s ++ ws))) := by
  obtain ⟨c, ws, rfl⟩ := List.exists_cons_of_ne_nil hne
  obtain ⟨hc, hws⟩ := List.forall_mem_cons.1 hws
  have hsize : utf8Size (s ++ c :: ws) = utf8Size (s ++ [c]) + utf8Size ws := by
    rw [← utf8Size_append, List.append_assoc, List.singleton_append]
  have hrest := (segments_scan t).shift (utf8Size (s ++ c :: ws))
  refine ((segments_scan s).append hopen hc (Segments.blanks_append hws ?_)).tokens_eq
  rw [Nat.zero_add, ← hsize]
  exact hrest

theorem scan_append {s : Text} (hopen : isOpen false s = false) {c : Char} (hc : isBlank c = true)
    (t : Text) : scan (s ++ c :: t) = scan s ++ (scan t).map (shift (utf8Size (s ++ [c]))) :=
  scan_append_blanks hopen (List.cons_ne_nil c []) (by simpa using hc) t

theorem scan_of_isWhole {t : Text} (h : IsWhole t) : scan t = [⟨t, 0⟩] := by
  have : Segments 0 ([] ++ (t ++ [])) [⟨t, 0 + utf8Size []⟩] :=
    Segments.cons (by simp) h (by simp [EndsAt]) (Segments.nil (by simp))
  rw [scan]
  simpa [utf8Size] using this.tokens_eq

theorem scan_of_blanks {ws : Text} (h : ∀ c ∈ ws, isBlank c = true) : scan ws = [] :=
  (Segments.nil h).tokens_eq

theorem map_text_shift (k : Nat) (tokens : List Token) :
    (tokens.map (shift k)).map (·.text) = tokens.map (·.text) := by
  simp [shift, Function.comp_def]

/-- **Whole tokens are read as they were written**, with spaces between them, as long as none but
the last has a quoted span open behind it. -/
theorem scan_intercalate {texts : List Text} (hwhole : ∀ t ∈ texts, IsWhole t)
    (hopen : texts.Pairwise fun t _ => isOpen false t = false) :
    (scan (List.intercalate [' '] texts)).map (·.text) = texts := by
  induction texts with
  | nil => rw [List.intercalate_nil, scan_of_blanks (by simp), List.map_nil]
  | cons t texts ih =>
    obtain ⟨ht, hwhole⟩ := List.forall_mem_cons.1 hwhole
    obtain ⟨hclosed, hopen⟩ := List.pairwise_cons.1 hopen
    cases texts with
    | nil => simp [scan_of_isWhole ht]
    | cons u texts =>
      have happend : List.intercalate [' '] (t :: u :: texts) =
          t ++ ' ' :: List.intercalate [' '] (u :: texts) := by
        simp [List.intercalate_cons_cons]
      rw [happend, scan_append (hclosed u (by simp)) (by decide), List.map_append, map_text_shift,
        scan_of_isWhole ht, ih hwhole hopen]
      rfl

end Token

end CardCatalog
