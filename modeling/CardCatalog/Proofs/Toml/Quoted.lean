import CardCatalog.Toml.Quoted.Form

/-!
# Strings read back

Whatever the form of a string, a reader behind its opening quotes finds the text that was written
and stops behind the closing quotes. On one line this goes character by character
(`readBasic?_escape`, `readLiteral?_append`). On several lines up to two quotes may stand in a row,
and it depends on what follows them whether they belong to the text: `ClosesBy` says how a reader
decides.

* `read?_write` is the law for the form that `Form.ofText` chooses.
-/

namespace CardCatalog.Toml.Quoted

variable {c q : Char} {rest t : Text}

@[simp]
theorem push_some (c : Char) (t rest : Text) :
    push c (some (t, rest)) = some (c :: t, rest) := rfl

theorem foldr_push_some (s t rest : Text) :
    s.foldr push (some (t, rest)) = some (s ++ t, rest) := by
  induction s with
  | nil => rfl
  | cons c s ih => rw [List.foldr_cons, ih, push_some, List.cons_append]

/-! ## Escapes -/

/-- Every letter behind a backslash stands for its character. None of them is a mark of a code or a
blank at the end of a line. -/
theorem lookup_escapes :
    ∀ entry ∈ escapes, escapes.lookup entry.1 = some entry.2 ∧
      entry.1 ≠ 'u' ∧ entry.1 ≠ 'U' ∧ entry.1 ≠ ' ' ∧ entry.1 ≠ '\t' ∧ entry.1 ≠ '\n' ∧
      entry.1 ≠ '\r' := by
  decide

theorem ofHex?_hexDigit :
    ∀ n < 128, ofHex? ['0', '0', hexDigit (n / 16), hexDigit n] = some (Char.ofNat n) := by
  decide +kernel

theorem toNat_lt_of_isForbidden (h : isForbidden c = true) : c.toNat < 128 := by
  simp only [isForbidden, Bool.or_eq_true, Bool.and_eq_true, decide_eq_true_eq, bne_iff_ne,
    beq_iff_eq] at h
  rcases h with ⟨h, -⟩ | rfl
  · omega
  · decide

theorem ne_return_of_not_isForbidden (h : isForbidden c = false) : c ≠ '\r' := by
  rintro rfl
  revert h
  decide

/-- A character is escaped by a letter or by its code, or else stands for itself. -/
theorem escape_cases (c : Char) :
    (∃ letter, (letter, c) ∈ escapes ∧ escape c = ['\\', letter]) ∨
      (∃ high low, escape c = ['\\', 'u', '0', '0', high, low] ∧
        ofHex? ['0', '0', high, low] = some c) ∨
      (escape c = [c] ∧ isForbidden c = false ∧ c ≠ '"' ∧ c ≠ '\\') := by
  rw [escape]
  cases hfind : escapes.find? (·.2 = c) with
  | some entry =>
    obtain ⟨letter, d⟩ := entry
    obtain rfl : d = c := by simpa using List.find?_some hfind
    exact Or.inl ⟨letter, List.mem_of_find?_eq_some hfind, rfl⟩
  | none =>
    have hnone : ∀ entry ∈ escapes, entry.2 ≠ c := by simpa using hfind
    refine Or.inr ?_
    by_cases hforbidden : isForbidden c = true
    · refine Or.inl ⟨hexDigit (c.toNat / 16), hexDigit c.toNat, if_pos hforbidden, ?_⟩
      rw [ofHex?_hexDigit c.toNat (toNat_lt_of_isForbidden hforbidden), Char.ofNat_toNat]
    · exact Or.inr ⟨if_neg hforbidden, by simpa using hforbidden,
        (hnone ('"', '"') (by decide)).symm, (hnone ('\\', '\\') (by decide)).symm⟩

/-- What stands for a character does not begin with a double quote or the end of a line, the
character itself aside. -/
theorem exists_escape_eq_cons (c : Char) :
    ∃ d code, escape c = d :: code ∧ d ≠ '"' ∧ d ≠ '\r' ∧ (d = '\n' → c = '\n') := by
  rcases escape_cases c with ⟨letter, -, h⟩ | ⟨high, low, h, -⟩ | ⟨h, hforbidden, hquote, -⟩
  · exact ⟨_, _, h, by decide, by decide, by simp⟩
  · exact ⟨_, _, h, by decide, by decide, by simp⟩
  · exact ⟨_, _, h, hquote, ne_return_of_not_isForbidden hforbidden, id⟩

/-! ## On one line -/

theorem readBasic?_escape (c : Char) (t : Text) :
    readBasic? (escape c ++ t) = push c (readBasic? t) := by
  rcases escape_cases c with ⟨letter, hmem, h⟩ | ⟨high, low, h, hhex⟩ |
    ⟨h, hforbidden, hquote, hslash⟩
  · obtain ⟨hlookup, hu, hU, -⟩ := lookup_escapes _ hmem
    rw [h, List.cons_append, List.singleton_append, readBasic?.eq_def]
    simp_all
  · simp only [h, List.cons_append, List.nil_append]
    rw [readBasic?.eq_def]
    simp [hhex]
  · rw [h, List.singleton_append, readBasic?.eq_def]
    simp_all

theorem readBasic?_flatMap (t rest : Text) :
    readBasic? (t.flatMap escape ++ '"' :: rest) = some (t, rest) := by
  induction t with
  | nil => rfl
  | cons c t ih => rw [List.flatMap_cons, List.append_assoc, readBasic?_escape, ih, push_some]

theorem readLiteral?_append (rest : Text) (ht : ∀ c ∈ t, isForbidden c = false ∧ c ≠ '\x27') :
    readLiteral? (t ++ '\x27' :: rest) = some (t, rest) := by
  induction t with
  | nil => rfl
  | cons c t ih =>
    obtain ⟨⟨hforbidden, hquote⟩, ht⟩ := List.forall_mem_cons.1 ht
    rw [List.cons_append, readLiteral?, ih ht, push_some, if_neg (by simp [hforbidden])]
    exact hquote

/-! ## Quotes in a row -/

/-- How a reader takes the quotes that close a long string: one that is not the first of three
belongs to the text, and of three to five in a row the last three close it. -/
structure ClosesBy (q : Char) (read : Text → Option (Text × Text)) : Prop where
  quote : ∀ t, ¬ [q, q] <+: t → read (q :: t) = push q (read t)
  close : ∀ n ≤ 2, ∀ rest : Text, rest.head? ≠ some q →
    read (List.replicate n q ++ [q, q, q] ++ rest) = some (List.replicate n q, rest)

namespace ClosesBy

variable {read : Text → Option (Text × Text)}

/-- Up to two quotes belong to the text if another character follows them. -/
theorem quotes (h : ClosesBy q read) {n : Nat} (hn : n ≤ 2) (hc : c ≠ q) (t : Text) :
    read (List.replicate n q ++ c :: t) = (List.replicate n q).foldr push (read (c :: t)) := by
  induction n with
  | zero => rfl
  | succ n ih =>
    have hfirst : ¬ [q, q] <+: List.replicate n q ++ c :: t := by
      obtain rfl | rfl : n = 0 ∨ n = 1 := by omega
      · simp [hc.symm]
      · simp [hc.symm]
    rw [List.replicate_succ, List.cons_append, h.quote _ hfirst, ih (by omega), List.foldr_cons]

end ClosesBy

theorem closesBy_readLongBasic? : ClosesBy '"' (readLongBasic? false) where
  quote t ht := by
    rw [readLongBasic?.eq_def]
    split
    case h_8 heq =>
      obtain ⟨rfl, rfl⟩ := List.cons.inj heq
      rfl
    all_goals simp_all
  close n hn rest hrest := by
    obtain rfl | rfl | rfl : n = 0 ∨ n = 1 ∨ n = 2 := by omega
    all_goals
      rw [readLongBasic?.eq_def]
      cases rest <;> simp_all [List.replicate]

theorem closesBy_readLongLiteral? : ClosesBy '\x27' readLongLiteral? where
  quote t ht := by
    rw [readLongLiteral?.eq_def]
    split
    case h_5 heq =>
      obtain ⟨rfl, rfl⟩ := List.cons.inj heq
      rfl
    all_goals simp_all
  close n hn rest hrest := by
    obtain rfl | rfl | rfl : n = 0 ∨ n = 1 ∨ n = 2 := by omega
    all_goals
      rw [readLongLiteral?.eq_def]
      cases rest <;> simp_all [List.replicate]

/-! ## On several lines -/

theorem readLongBasic?_newline (t : Text) :
    readLongBasic? false ('\n' :: t) = push '\n' (readLongBasic? false t) := by
  rw [readLongBasic?.eq_def]
  simp

theorem readLongBasic?_escape (c : Char) (t : Text) :
    readLongBasic? false (escape c ++ t) = push c (readLongBasic? false t) := by
  rcases escape_cases c with ⟨letter, hmem, h⟩ | ⟨high, low, h, hhex⟩ |
    ⟨h, hforbidden, hquote, hslash⟩
  · obtain ⟨hlookup, hu, hU, hblank⟩ := lookup_escapes _ hmem
    have hline : endsLine (letter :: t) = false := by simp_all [endsLine]
    rw [h, List.cons_append, List.singleton_append, readLongBasic?.eq_def]
    simp_all
  · simp only [h, List.cons_append, List.nil_append]
    rw [readLongBasic?.eq_def]
    simp [hhex]
  · have hreturn := ne_return_of_not_isForbidden hforbidden
    rw [h, List.singleton_append, readLongBasic?.eq_def]
    simp_all

/-- How texts are written between three quotes: `Written q read n t w` says that behind `n` quotes
in a row, `w` stands for `t`, of which the reader finds one character after the other. -/
inductive Written (q : Char) (read : Text → Option (Text × Text)) : Nat → Text → Text → Prop
  | nil (n : Nat) : Written q read n [] []
  | quote {n : Nat} {t w : Text} (row : n < 2) (rest : Written q read (n + 1) t w) :
      Written q read n (q :: t) (q :: w)
  | other {n : Nat} {c d : Char} {code t w : Text} (ends : d ≠ q)
      (reads : ∀ u, read (d :: code ++ u) = push c (read u)) (rest : Written q read 0 t w) :
      Written q read n (c :: t) (d :: code ++ w)

/-- Another character can stand for itself. -/
theorem Written.plain {read : Text → Option (Text × Text)} {n : Nat} {t w : Text} (ends : c ≠ q)
    (reads : ∀ u, read (c :: u) = push c (read u)) (h : Written q read 0 t w) :
    Written q read n (c :: t) (c :: w) :=
  @Written.other q read n c c [] t w ends reads h

/-- What is written between three quotes is read up to the last three of the quotes behind it. -/
theorem ClosesBy.read_written {read : Text → Option (Text × Text)} (h : ClosesBy q read) {n : Nat}
    {t w : Text} (hw : Written q read n t w) (hn : n ≤ 2) (hrest : rest.head? ≠ some q) :
    read (List.replicate n q ++ (w ++ [q, q, q] ++ rest)) =
      some (List.replicate n q ++ t, rest) := by
  induction hw with
  | nil n => rw [List.nil_append, ← List.append_assoc, h.close n hn rest hrest, List.append_nil]
  | @quote n t w hlt _ ih =>
    have hrow (u : Text) : List.replicate n q ++ q :: u = List.replicate (n + 1) q ++ u := by
      rw [List.replicate_succ', List.append_assoc, List.singleton_append]
    rw [hrow, List.cons_append, List.cons_append, hrow]
    exact ih (by omega)
  | @other n c d code t w hends hreads _ ih =>
    have hnext := ih (Nat.zero_le 2)
    rw [List.replicate_zero, List.nil_append, List.nil_append] at hnext
    -- the character ends the row of quotes, which thus belongs to the text
    rw [List.append_assoc, List.append_assoc, List.cons_append, h.quotes hn hends,
      ← List.cons_append, hreads, ← List.append_assoc, hnext, push_some, foldr_push_some]

theorem written_longEscape (n : Nat) (t : Text) :
    Written '"' (readLongBasic? false) n t (longEscape n t) := by
  induction t generalizing n with
  | nil => exact .nil n
  | cons c t ih =>
    obtain ⟨d, code, hescape, hquote, -⟩ := exists_escape_eq_cons c
    have hother : Written '"' (readLongBasic? false) n (c :: t) (escape c ++ longEscape 0 t) := by
      rw [hescape]
      exact .other hquote (fun u => by rw [← hescape, readLongBasic?_escape]) (ih 0)
    rw [longEscape]
    split
    · next hc =>
      subst hc
      split
      · next hrow => exact .quote hrow (ih (n + 1))
      · exact hother
    · split
      · next hc =>
        subst hc
        exact .plain (by decide) readLongBasic?_newline (ih 0)
      · exact hother

theorem readLongLiteral?_cons (hcontrol : isControl c = false) (hquote : c ≠ '\x27') (t : Text) :
    readLongLiteral? (c :: t) = push c (readLongLiteral? t) := by
  have hreturn : c ≠ '\r' := by
    rintro rfl
    revert hcontrol
    decide
  rw [readLongLiteral?.eq_def]
  by_cases hline : c = '\n' <;> simp_all [isControl]

theorem hasThree_of_append {s t : Text} (h : hasThree c (s ++ t) = false) :
    hasThree c t = false := by
  induction s with
  | nil => exact h
  | cons d s ih =>
    refine ih ?_
    rw [List.cons_append, hasThree.eq_def] at h
    split at h
    · next heq =>
      obtain ⟨-, heq⟩ := List.cons.inj heq
      rw [heq]
      exact (Bool.or_eq_false_iff.1 h).2
    · next hshort =>
      rw [hasThree.eq_def]
      split
      · next heq => exact absurd (congrArg (d :: ·) heq) (hshort _ _ _ _)
      · rfl

theorem written_self {n : Nat} (hn : n ≤ 2) (t : Text) (hcontrol : ∀ c ∈ t, isControl c = false)
    (hthree : hasThree '\x27' (List.replicate n '\x27' ++ t) = false) :
    Written '\x27' readLongLiteral? n t t := by
  induction t generalizing n with
  | nil => exact .nil n
  | cons c t ih =>
    obtain ⟨hc, ht⟩ := List.forall_mem_cons.1 hcontrol
    by_cases hquote : c = '\x27'
    · subst hquote
      have hlt : n < 2 := by
        refine Nat.lt_of_le_of_ne hn ?_
        rintro rfl
        cases hthree
      refine .quote hlt (ih (by omega) ht ?_)
      rwa [List.replicate_succ', List.append_assoc]
    · refine .plain hquote (readLongLiteral?_cons hc hquote) (ih (Nat.zero_le 2) ht ?_)
      exact hasThree_of_append (s := List.replicate n '\x27' ++ [c]) (by simpa using hthree)

/-! ## Any of the four -/

/-- A text is written without escapes only if it needs none. -/
theorem suits_ofText {form : Form} (hform : Form.ofText t = form) :
    form.suits t = true ∨ form = .longBasic ∨ form = .basic := by
  rw [Form.ofText] at hform
  split at hform
  · next h =>
    subst hform
    exact Or.inl (List.find?_some h)
  · split at hform
    · exact Or.inr (Or.inl hform.symm)
    · exact Or.inr (Or.inr hform.symm)

/-- A quote that is not the first of three opens a string of one line. -/
theorem read?_short (ht : ¬ [q, q] <+: t) : read? (q :: t) = readShort? (q :: t) := by
  rw [read?.eq_def]
  split
  · next heq =>
    obtain ⟨rfl, rfl⟩ := List.cons.inj heq
    simp at ht
  · next heq =>
    obtain ⟨rfl, rfl⟩ := List.cons.inj heq
    simp at ht
  · rfl

/-- Behind the opening quotes of a long string, a line end is dropped just if it was put there. -/
theorem dropLineEnd_opening {u : Text}
    (h : ∀ c ∈ u.head?, c = '\n' ∨ c = '\r' → '\n' ∈ t) : dropLineEnd (opening t ++ u) = u := by
  rw [opening]
  split
  · rfl
  · next hline =>
    have hmem : '\n' ∉ t := by simpa using hline
    rw [List.nil_append, dropLineEnd.eq_def]
    split
    · exact absurd (h '\r' rfl (Or.inr rfl)) hmem
    · exact absurd (h '\n' rfl (Or.inl rfl)) hmem
    · rfl

section Forms

variable (hrest : ∀ c ∈ rest.head?, c ≠ '"' ∧ c ≠ '\x27')

include hrest

theorem read?_basic (t : Text) : read? (Form.basic.write t ++ rest) = some (t, rest) := by
  have hfirst : ¬ ['"', '"'] <+: t.flatMap escape ++ '"' :: rest := by
    cases t with
    | nil =>
      cases rest with
      | nil => simp
      | cons c rest => simp [(hrest c rfl).1.symm]
    | cons c t =>
      obtain ⟨d, code, hescape, hquote, -⟩ := exists_escape_eq_cons c
      simp [hescape, hquote.symm]
  have hwrite : Form.basic.write t ++ rest = '"' :: (t.flatMap escape ++ '"' :: rest) := by
    simp [Form.write]
  rw [hwrite, read?_short hfirst]
  exact readBasic?_flatMap t rest

theorem read?_literal (hsuits : Form.literal.suits t = true) :
    read? (Form.literal.write t ++ rest) = some (t, rest) := by
  have ht : ∀ c ∈ t, isForbidden c = false ∧ c ≠ '\x27' := by
    simp only [Form.suits, Bool.and_eq_true, Bool.not_eq_true', List.any_eq_false] at hsuits
    obtain ⟨⟨hcontrol, hline⟩, hquote⟩ := hsuits
    intro c hc
    have hcl : c ≠ '\n' := by
      rintro rfl
      simp [hc] at hline
    refine ⟨?_, ?_⟩
    · simpa [isControl, hcl] using hcontrol c hc
    · rintro rfl
      simp [hc] at hquote
  have hfirst : ¬ ['\x27', '\x27'] <+: t ++ '\x27' :: rest := by
    cases t with
    | nil =>
      cases rest with
      | nil => simp
      | cons c rest => simp [(hrest c rfl).2.symm]
    | cons c t => simp [(ht c List.mem_cons_self).2.symm]
  have hwrite : Form.literal.write t ++ rest = '\x27' :: (t ++ '\x27' :: rest) := by
    simp [Form.write]
  rw [hwrite, read?_short hfirst]
  exact readLiteral?_append rest ht

theorem read?_longBasic (t : Text) : read? (Form.longBasic.write t ++ rest) = some (t, rest) := by
  have hdrop : dropLineEnd (opening t ++ (longEscape 0 t ++ ['"', '"', '"'] ++ rest)) =
      longEscape 0 t ++ ['"', '"', '"'] ++ rest := by
    refine dropLineEnd_opening ?_
    cases t with
    | nil => simp [longEscape]
    | cons c t =>
      obtain ⟨d, code, hescape, -, hreturn, hline⟩ := exists_escape_eq_cons c
      rw [longEscape]
      split
      · split <;> simp_all
      · split <;> simp_all
  have hread : readLongBasic? false (longEscape 0 t ++ ['"', '"', '"'] ++ rest) = some (t, rest) :=
    closesBy_readLongBasic?.read_written (written_longEscape 0 t) (Nat.zero_le 2) fun h =>
      (hrest '"' h).1 rfl
  have hwrite : Form.longBasic.write t ++ rest =
      '"' :: '"' :: '"' :: (opening t ++ (longEscape 0 t ++ ['"', '"', '"'] ++ rest)) := by
    simp [Form.write]
  rw [hwrite, read?, hdrop]
  exact hread

theorem read?_longLiteral (hsuits : Form.longLiteral.suits t = true) :
    read? (Form.longLiteral.write t ++ rest) = some (t, rest) := by
  simp only [Form.suits, Bool.and_eq_true, Bool.not_eq_true', List.any_eq_false] at hsuits
  obtain ⟨hcontrol, hthree⟩ := hsuits
  have hcontrol : ∀ c ∈ t, isControl c = false := fun c hc => by simpa using hcontrol c hc
  have hdrop : dropLineEnd (opening t ++ (t ++ ['\x27', '\x27', '\x27'] ++ rest)) =
      t ++ ['\x27', '\x27', '\x27'] ++ rest := by
    refine dropLineEnd_opening ?_
    cases t with
    | nil => simp
    | cons c t =>
      have hreturn : c ≠ '\r' := by
        rintro rfl
        cases hcontrol '\r' List.mem_cons_self
      simp_all
  have hread : readLongLiteral? (t ++ ['\x27', '\x27', '\x27'] ++ rest) = some (t, rest) :=
    closesBy_readLongLiteral?.read_written (written_self (Nat.zero_le 2) t hcontrol hthree)
      (Nat.zero_le 2) fun h => (hrest '\x27' h).2 rfl
  have hwrite : Form.longLiteral.write t ++ rest =
      '\x27' :: '\x27' :: '\x27' :: (opening t ++ (t ++ ['\x27', '\x27', '\x27'] ++ rest)) := by
    simp [Form.write]
  rw [hwrite, read?, hdrop]
  exact hread

/-- **Every text is read as it was written**, up to the closing quotes. -/
theorem read?_write (t : Text) : read? (write t ++ rest) = some (t, rest) := by
  rw [write]
  cases hform : Form.ofText t with
  | basic => exact read?_basic hrest t
  | literal => exact read?_literal hrest (by simpa using suits_ofText hform)
  | longBasic => exact read?_longBasic hrest t
  | longLiteral => exact read?_longLiteral hrest (by simpa using suits_ofText hform)

end Forms

/-- Quotes of both kinds, a backslash, and a line that ends. -/
example : read? (write "a\\'b\"\nc") = some ("a\\'b\"\nc".toList, []) := by
  decide +kernel

end CardCatalog.Toml.Quoted
