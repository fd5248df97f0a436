import CardCatalog.Proofs.Token.Segmentation
import Mathlib.Algebra.Ring.Parity

/-!
# Which tokens are read

That a list of tokens is the one that is read can be told from the expression as a whole, without
going through it: it consists of the tokens with blanks before, between and behind them, each token
stands at its offset, blanks in tokens follow an odd number of quotes, and behind a token that has
an odd number of them stands nothing (`scan_eq_iff_consistsOf`). Nothing of the expression is lost,
and there is only one way to cut it.
-/

namespace CardCatalog.Token

open Text

/-- The parts one after the other, each of them blanks and the token behind them. -/
def joined (parts : List (Text × Token)) : Text := parts.flatMap fun part => part.1 ++ part.2.text

/-- The text does not begin with a blank, and its blanks follow an odd number of quotes. -/
structure IsWord (t : Text) : Prop where
  head : ∃ c rest, t = c :: rest ∧ isBlank c = false
  quoted : ∀ before c after, t = before ++ c :: after → isBlank c = true →
    Odd (before.count '"')

/-- The text, which stands behind `prior`, consists of the parts and of blanks at its end. -/
structure ConsistsOf (prior s : Text) (parts : List (Text × Token)) (tail : Text) : Prop where
  eq_joined : s = joined parts ++ tail
  blanks : ∀ part ∈ parts, ∀ c ∈ part.1, isBlank c = true
  tail_blanks : ∀ c ∈ tail, isBlank c = true
  isWord : ∀ part ∈ parts, IsWord part.2.text
  /-- The offset counts the bytes of what stands before the token. -/
  offset : ∀ before part after, parts = before ++ part :: after →
    part.2.offset = (String.ofList (prior ++ (joined before ++ part.1))).utf8ByteSize
  /-- Tokens do not touch. -/
  separated : ∀ part ∈ parts.tail, part.1 ≠ []
  /-- All tokens but the last have an even number of quotes, and nothing follows the last one if it
  does not. -/
  odd : ∀ before part after, parts = before ++ part :: after → Odd (part.2.text.count '"') →
    after = [] ∧ tail = []

theorem utf8Size_eq_utf8ByteSize (t : Text) : utf8Size t = (String.ofList t).utf8ByteSize := by
  induction t with
  | nil => rfl
  | cons c t ih =>
    rw [utf8Size, ih, String.ofList_cons, String.utf8ByteSize_append, String.utf8ByteSize_singleton]

theorem joined_cons (ws : Text) (token : Token) (parts : List (Text × Token)) :
    joined ((ws, token) :: parts) = ws ++ token.text ++ joined parts := rfl

/-! ## Quotes and blanks -/

/-- A statement on all places in a list is one on the first place, and one on all later places. -/
theorem forall_split_cons_iff {α : Type*} {P : List α → α → List α → Prop} {a : α} {l : List α} :
    (∀ before b after, a :: l = before ++ b :: after → P before b after) ↔
      P [] a l ∧ ∀ before b after, l = before ++ b :: after → P (a :: before) b after := by
  constructor
  · intro h
    exact ⟨h [] a l rfl, fun before b after hl => h (a :: before) b after (by rw [hl]; rfl)⟩
  · rintro ⟨hfirst, hlater⟩ before b after heq
    cases before with
    | nil =>
      obtain ⟨rfl, rfl⟩ := List.cons.inj heq
      exact hfirst
    | cons d before =>
      obtain ⟨rfl, hl⟩ := List.cons.inj heq
      exact hlater before b after hl

/-- Every quote opens or closes a span. -/
theorem isOpen_eq (quoted : Bool) (t : Text) :
    isOpen quoted t = (quoted != decide (Odd (t.count '"'))) := by
  induction t generalizing quoted with
  | nil => simp
  | cons c t ih =>
    rw [isOpen_cons, ih, List.count_cons]
    cases hc : c == '"' with
    | true => by_cases hodd : Odd (t.count '"') <;> simp [hodd, Nat.odd_add_one]
    | false => simp

theorem isOpen_iff {t : Text} : isOpen false t = true ↔ Odd (t.count '"') := by
  rw [isOpen_eq]
  simp

theorem quotesBlanks_iff {quoted : Bool} {t : Text} :
    quotesBlanks quoted t = true ↔
      ∀ before c after, t = before ++ c :: after → isBlank c = true →
        isOpen quoted before = true := by
  induction t generalizing quoted with
  | nil => simp [quotesBlanks]
  | cons c t ih =>
    rw [quotesBlanks, Bool.and_eq_true, ih, forall_split_cons_iff]
    refine and_congr ?_ Iff.rfl
    cases quoted <;> cases isBlank c <;> simp

theorem isWord_iff {t : Text} : IsWord t ↔ IsWhole t := by
  constructor
  · rintro ⟨⟨c, rest, rfl, -⟩, hquoted⟩
    refine ⟨List.cons_ne_nil c rest, quotesBlanks_iff.2 fun before d after h hd => ?_⟩
    exact isOpen_iff.2 (hquoted before d after h hd)
  · intro h
    refine ⟨h.head_not_blank, fun before c after heq hc => ?_⟩
    exact isOpen_iff.1 (quotesBlanks_iff.1 h.blanks_quoted before c after heq hc)

/-! ## Part by part -/

namespace ConsistsOf

variable {prior s tail : Text} {parts : List (Text × Token)}

theorem nil_iff : ConsistsOf prior s [] tail ↔ s = tail ∧ ∀ c ∈ tail, isBlank c = true := by
  constructor
  · intro h
    exact ⟨h.eq_joined, h.tail_blanks⟩
  · rintro ⟨rfl, htail⟩
    exact ⟨rfl, by simp, htail, by simp, by simp, by simp, by simp⟩

theorem eq_nil_iff (h : ConsistsOf prior s parts tail) : s = [] ↔ parts = [] ∧ tail = [] := by
  rw [h.eq_joined, List.append_eq_nil_iff]
  refine and_congr_left fun _ => ?_
  cases parts with
  | nil => simp [joined]
  | cons part parts =>
    obtain ⟨c, rest, hpart, -⟩ := (h.isWord part (by simp)).head
    simp [joined, hpart]

/-- The text begins with a blank if there are blanks before its first token. -/
theorem head_blank_iff (h : ConsistsOf prior s parts tail) :
    (∀ c ∈ s.head?, isBlank c = true) ↔ ∀ part ∈ parts.head?, part.1 ≠ [] := by
  rw [h.eq_joined]
  cases parts with
  | nil =>
    have htail : ∀ c ∈ tail.head?, isBlank c = true := fun c hc =>
      h.tail_blanks c (List.mem_of_mem_head? hc)
    simpa [joined] using htail
  | cons part parts =>
    obtain ⟨c, rest, hpart, hc⟩ := (h.isWord part (by simp)).head
    have hblanks := h.blanks part (by simp)
    cases hfirst : part.1 with
    | nil => simp [joined, hfirst, hpart, hc]
    | cons d ws => simp [joined, hfirst, hblanks d (by simp [hfirst])]

/-- The first part is split off where its token may end. -/
theorem cons_iff {ws : Text} {token : Token} :
    ConsistsOf prior s ((ws, token) :: parts) tail ↔
      (∀ c ∈ ws, isBlank c = true) ∧ IsWord token.text ∧
        token.offset = (String.ofList (prior ++ ws)).utf8ByteSize ∧
          ∃ rest, s = ws ++ (token.text ++ rest) ∧ EndsAt false token.text rest ∧
            ConsistsOf (prior ++ (ws ++ token.text)) rest parts tail := by
  constructor
  · intro h
    obtain ⟨hws, hblanks⟩ := List.forall_mem_cons.1 h.blanks
    obtain ⟨hword, hwords⟩ := List.forall_mem_cons.1 h.isWord
    obtain ⟨hfirst, hoffsets⟩ := forall_split_cons_iff.1 h.offset
    obtain ⟨hodd, hodds⟩ := forall_split_cons_iff.1 h.odd
    have hrest : ConsistsOf (prior ++ (ws ++ token.text)) (joined parts ++ tail) parts tail := by
      refine ⟨rfl, hblanks, h.tail_blanks, hwords, fun before part after heq => ?_,
        fun part hpart => h.separated part (List.mem_of_mem_tail hpart), hodds⟩
      rw [hoffsets before part after heq, joined_cons]
      simp only [List.append_assoc]
    refine ⟨hws, hword, hfirst, _, ?_, fun c hc => ⟨?_, ?_⟩, hrest⟩
    · rw [h.eq_joined, joined_cons]
      simp only [List.append_assoc]
    · -- an open span would have nothing behind it
      by_contra hopen
      rw [Bool.not_eq_false, isOpen_iff] at hopen
      rw [hrest.eq_nil_iff.2 (hodd hopen)] at hc
      cases hc
    · refine hrest.head_blank_iff.2 (fun part hpart => ?_) c hc
      exact h.separated part (List.mem_of_mem_head? hpart)
  · rintro ⟨hws, hword, hoffset, rest, rfl, hends, hrest⟩
    have hhead := hrest.head_blank_iff.1 fun c hc => (hends c hc).2
    refine ⟨?_, List.forall_mem_cons.2 ⟨hws, hrest.blanks⟩, hrest.tail_blanks,
      List.forall_mem_cons.2 ⟨hword, hrest.isWord⟩, forall_split_cons_iff.2 ⟨hoffset, ?_⟩, ?_,
      forall_split_cons_iff.2 ⟨fun hodd => hrest.eq_nil_iff.1 ?_, hrest.odd⟩⟩
    · rw [hrest.eq_joined, joined_cons]
      simp only [List.append_assoc]
    · intro before part after heq
      rw [hrest.offset before part after heq, joined_cons]
      simp only [List.append_assoc]
    · cases parts with
      | nil => simp
      | cons part parts => exact List.forall_mem_cons.2 ⟨hhead part rfl, hrest.separated⟩
    · cases rest with
      | nil => rfl
      | cons c rest =>
        have hopen : isOpen false token.text = true := isOpen_iff.2 hodd
        rw [(hends c rfl).1] at hopen
        cases hopen

end ConsistsOf

/-! ## All tokens -/

/-- Segmenting a text part by part and cutting it as a whole is the same. -/
theorem segments_iff {prior s : Text} {tokens : List Token} :
    Segments (utf8Size prior) s tokens ↔
      ∃ parts tail, ConsistsOf prior s parts tail ∧ parts.map (·.2) = tokens := by
  constructor
  · intro h
    generalize hoffset : utf8Size prior = offset at h
    induction h generalizing prior with
    | @nil offset ws hws => exact ⟨[], ws, ConsistsOf.nil_iff.2 ⟨rfl, hws⟩, rfl⟩
    | @cons offset ws t rest tokens hws ht hends _ ih =>
      obtain ⟨parts, tail, hrest, rfl⟩ := @ih (prior ++ (ws ++ t)) (by
        rw [utf8Size_append, utf8Size_append, hoffset, Nat.add_assoc])
      refine ⟨(ws, ⟨t, offset + utf8Size ws⟩) :: parts, tail, ?_, rfl⟩
      exact ConsistsOf.cons_iff.2
        ⟨hws, isWord_iff.2 ht, by rw [← utf8Size_eq_utf8ByteSize, utf8Size_append, hoffset], rest,
          rfl, hends, hrest⟩
  · rintro ⟨parts, tail, h, rfl⟩
    induction parts generalizing prior s with
    | nil =>
      obtain ⟨rfl, htail⟩ := ConsistsOf.nil_iff.1 h
      exact Segments.nil htail
    | cons part parts ih =>
      obtain ⟨ws, t, offset⟩ := part
      obtain ⟨hws, hword, hoffset, rest, rfl, hends, hrest⟩ := ConsistsOf.cons_iff.1 h
      have hsegments := ih hrest
      rw [utf8Size_append, utf8Size_append, ← Nat.add_assoc] at hsegments
      rw [← utf8Size_eq_utf8ByteSize, utf8Size_append] at hoffset
      subst hoffset
      exact Segments.cons hws (isWord_iff.1 hword) hends hsegments

/-- **The tokens that are read are those of which the expression consists**, and no others are. -/
theorem scan_eq_iff_consistsOf (s : Text) (tokens : List Token) :
    scan s = tokens ↔
      ∃ parts tail, ConsistsOf [] s parts tail ∧ parts.map (·.2) = tokens := by
  rw [← segments_iff]
  constructor
  · rintro rfl
    exact segments_scan s
  · exact fun h => h.tokens_eq

end CardCatalog.Token
