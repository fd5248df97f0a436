import CardCatalog.Proofs.Field.Canonical
import CardCatalog.Proofs.Text.Pieces
import CardCatalog.Term
import Mathlib.Data.List.Infix

/-!
# The grammar of terms

`Splits body name symbol value` says what it is for a text to be a name, an operator and a value,
without reading it from the left. There is at most one way to split a text, and it is the one that
is read (`parts?_eq_some_iff`).

* `interior?_eq_some_iff` says what a phrase is, in the same manner.
* `ofBody_cases` lists the three forms of a term by these two.
-/

namespace CardCatalog

namespace Operator

theorem ofSymbol?_symbol (operator : Operator) : ofSymbol? operator.symbol = some operator := by
  cases operator <;> decide

theorem symbol_ne_nil (operator : Operator) : operator.symbol ≠ [] := by
  cases operator <;> decide

theorem isSymbolChar_of_mem_symbol (operator : Operator) :
    ∀ c ∈ operator.symbol, isSymbolChar c = true := by
  rw [← List.all_eq_true]
  cases operator <;> decide

theorem isSymbolChar_iff {c : Char} :
    isSymbolChar c = true ↔ c = ':' ∨ c = '=' ∨ c = '>' ∨ c = '<' := by
  simp only [isSymbolChar, Bool.or_eq_true, beq_iff_eq, or_assoc]

end Operator

namespace Term

open Operator

/-! ## Kinds of characters -/

theorem isNameChar_iff {c : Char} : isNameChar c = true ↔
    65 ≤ c.toNat ∧ c.toNat ≤ 90 ∨ 97 ≤ c.toNat ∧ c.toNat ≤ 122 ∨ c.toNat = 95 := by
  have hunderscore : c = '_' ↔ c.toNat = 95 :=
    ⟨fun h => by rw [h]; rfl, fun h => Char.toNat_inj.1 h⟩
  have halpha : c.isAlpha = (decide (c.val ≥ 'A'.val ∧ c.val ≤ 'Z'.val) ||
      (decide (c.val ≥ 'a'.val) && decide (c.val ≤ 'z'.val))) := rfl
  simp only [isNameChar, halpha, Bool.or_eq_true, Bool.and_eq_true, decide_eq_true_eq, beq_iff_eq,
    ge_iff_le, UInt32.le_iff_toNat_le, or_assoc, hunderscore]
  rfl

theorem isNameChar_eq_false_of_isSymbolChar {c : Char} (h : isSymbolChar c = true) :
    isNameChar c = false := by
  rcases isSymbolChar_iff.1 h with rfl | rfl | rfl | rfl <;> decide

theorem isMark_of_isSymbolChar {c : Char} (h : isSymbolChar c = true) :
    Text.isMark c = true := by
  rcases isSymbolChar_iff.1 h with rfl | rfl | rfl | rfl <;> decide

/-! ## Name, operator, value -/

/-- The text can be read behind an operator: it begins with no operator character, or is nothing
but one. -/
def IsValue : Text → Prop
  | [] => False
  | c :: rest => isSymbolChar c = true → rest = []

/-- The text is a name, a run of operator characters and a value. -/
structure Splits (body name symbol value : Text) : Prop where
  body_eq : body = name ++ symbol ++ value
  name_ne_nil : name ≠ []
  name_chars : ∀ c ∈ name, isNameChar c = true
  symbol_ne_nil : symbol ≠ []
  symbol_chars : ∀ c ∈ symbol, isSymbolChar c = true
  value : IsValue value

theorem IsValue.ne_nil {value : Text} (h : IsValue value) : value ≠ [] := by
  rintro rfl
  exact h

theorem Splits.exists_head? {body name symbol value : Text} (h : Splits body name symbol value) :
    ∃ c, body.head? = some c ∧ isNameChar c = true := by
  obtain ⟨c, name', rfl⟩ := List.exists_cons_of_ne_nil h.name_ne_nil
  exact ⟨c, by simp [h.body_eq], h.name_chars c List.mem_cons_self⟩

theorem Splits.head?_ne_dash {body name symbol value : Text} (h : Splits body name symbol value) :
    body.head? ≠ some '-' := by
  obtain ⟨c, hhead, hc⟩ := h.exists_head?
  rw [hhead]
  rintro hdash
  obtain rfl := Option.some.inj hdash
  exact absurd hc (by decide)

theorem parts?_of_splits {body name symbol value : Text} (h : Splits body name symbol value) :
    parts? body = some (name, symbol, value) := by
  obtain ⟨rfl, hname, hnames, hsymbol, hsymbols, hvalue⟩ := h
  -- the name stops at the operator
  have hstop : ∀ c ∈ (symbol ++ value).head?, isNameChar c = false := by
    obtain ⟨c, symbol', rfl⟩ := List.exists_cons_of_ne_nil hsymbol
    intro d hd
    obtain rfl : c = d := by simpa using hd
    exact isNameChar_eq_false_of_isSymbolChar (hsymbols c (by simp))
  simp only [parts?, List.append_assoc, Text.takeWhile_append_stop hnames hstop,
    Text.dropWhile_append_stop hnames hstop]
  cases value with
  | nil => exact absurd hvalue id
  | cons c rest =>
    cases hc : isSymbolChar c with
    | false =>
      have hstop' : ∀ d ∈ (c :: rest).head?, isSymbolChar d = false := by simpa using hc
      rw [Text.takeWhile_append_stop hsymbols hstop', Text.dropWhile_append_stop hsymbols hstop']
      simp [hname, hsymbol]
    | true =>
      -- the value is the last character of the run
      obtain rfl := hvalue hc
      have hall : ∀ d ∈ symbol ++ [c], isSymbolChar d = true :=
        List.forall_mem_append.2 ⟨hsymbols, by simpa using hc⟩
      have hlength := List.length_pos_iff.2 hsymbol
      rw [List.takeWhile_eq_self_iff.2 hall, List.dropWhile_eq_nil_iff.2 hall]
      simp [hname, show ¬ symbol.length + 1 < 2 by omega]

theorem splits_of_parts? {body name symbol value : Text}
    (h : parts? body = some (name, symbol, value)) : Splits body name symbol value := by
  have hbody := List.takeWhile_append_dropWhile (p := isNameChar) (l := body)
  have hrest := List.takeWhile_append_dropWhile (p := isSymbolChar)
    (l := body.dropWhile isNameChar)
  have hnames : ∀ c ∈ body.takeWhile isNameChar, isNameChar c = true :=
    fun _ => List.mem_takeWhile_imp
  have hsymbols : ∀ c ∈ (body.dropWhile isNameChar).takeWhile isSymbolChar,
      isSymbolChar c = true := fun _ => List.mem_takeWhile_imp
  have hstop := Text.head?_dropWhile_stop isSymbolChar (body.dropWhile isNameChar)
  simp only [parts?] at h
  generalize body.takeWhile isNameChar = first at *
  generalize (body.dropWhile isNameChar).takeWhile isSymbolChar = run at *
  generalize (body.dropWhile isNameChar).dropWhile isSymbolChar = last at *
  rw [← hrest] at hbody
  split at h
  · cases h
  next hne =>
  simp only [Bool.or_eq_true, decide_eq_true_eq, not_or] at hne
  split at h
  · next hlast =>
    obtain ⟨rfl, rfl, rfl⟩ : first = name ∧ run = symbol ∧ last = value := by simpa using h
    refine ⟨by rw [← hbody, List.append_assoc], hne.1, hnames, hne.2, hsymbols, ?_⟩
    cases last with
    | nil => exact hlast rfl
    | cons c rest =>
      intro hc
      rw [hstop c rfl] at hc
      cases hc
  · next hlast =>
    obtain rfl : last = [] := by simpa using hlast
    split at h
    · next c hc =>
      split at h
      · cases h
      next hlength =>
      obtain ⟨rfl, rfl, rfl⟩ : first = name ∧ run.dropLast = symbol ∧ [c] = value := by
        simpa using h
      have hrun : run = run.dropLast ++ [c] := by
        rw [List.dropLast_append_getLast? c hc]
      refine ⟨by rw [← hbody, List.append_nil, List.append_assoc, ← hrun], hne.1, hnames, ?_,
        fun d hd => hsymbols d (List.mem_of_mem_dropLast hd), fun _ => rfl⟩
      intro hnil
      rw [hrun, hnil] at hlength
      exact hlength (Nat.lt_succ_self 1)
    · cases h

/-- **A text is split in one way, the way in which it is read.** -/
theorem parts?_eq_some_iff {body name symbol value : Text} :
    parts? body = some (name, symbol, value) ↔ Splits body name symbol value :=
  ⟨splits_of_parts?, parts?_of_splits⟩

/-! ## Phrases -/

theorem untilLastQuote?_eq_some_iff {rest phrase : Text} :
    untilLastQuote? rest = some phrase ↔ rest = [] ∧ phrase = [] ∨ rest = phrase ++ ['"'] := by
  rw [untilLastQuote?]
  split
  · next h =>
    subst h
    simp
  · next h =>
    split
    · next hlast =>
      have hrest := List.dropLast_append_getLast? '"' hlast
      rw [Option.some.injEq, or_iff_right (fun hnil => h hnil.1)]
      constructor
      · rintro rfl
        exact hrest.symm
      · rintro rfl
        simp
    · next hlast =>
      rw [or_iff_right (fun hnil => h hnil.1)]
      constructor
      · intro hnone
        cases hnone
      · rintro rfl
        exact absurd (by simp) hlast

/-- A phrase stands between quotes, behind an exclamation mark or not; one quote can be both. -/
theorem interior?_eq_some_iff {body phrase : Text} :
    interior? body = some phrase ↔
      ∃ rest, (body = '"' :: rest ∨ body = '!' :: '"' :: rest) ∧
        (rest = [] ∧ phrase = [] ∨ rest = phrase ++ ['"']) := by
  simp only [← untilLastQuote?_eq_some_iff]
  unfold interior?
  split
  · next rest => simp
  · next rest => simp
  · next hbang hquote =>
    constructor
    · intro h
      cases h
    · rintro ⟨rest, rfl | rfl, -⟩
      · exact absurd rfl (hquote rest)
      · exact absurd rfl (hbang rest)

theorem interior?_eq_none_of_head {body : Text} {c : Char} (hhead : body.head? = some c)
    (hc : c ≠ '"' ∧ c ≠ '!') : interior? body = none := by
  rw [Option.eq_none_iff_forall_ne_some]
  intro phrase h
  obtain ⟨rest, rfl | rfl, -⟩ := interior?_eq_some_iff.1 h
  · exact hc.1 (by simpa using hhead.symm)
  · exact hc.2 (by simpa using hhead.symm)

/-! ## The forms of a term -/

/-- **The three forms of a term**: a phrase, a field with an operator and a value, or a word. -/
theorem ofBody_cases (body : Text) (negated : Bool) :
    (∃ phrase, interior? body = some phrase ∧ ofBody body negated = free .exact phrase negated) ∨
      (∃ name symbol value operator, interior? body = none ∧ Splits body name symbol value ∧
        ofSymbol? symbol = some operator ∧
        ofBody body negated = onField (Field.ofName name) operator value negated) ∨
      interior? body = none ∧ ofBody body negated = free .contains body negated := by
  cases hinterior : interior? body with
  | some phrase => exact Or.inl ⟨phrase, rfl, by rw [ofBody, hinterior]⟩
  | none =>
    refine Or.inr ?_
    cases hfielded : fielded? body negated with
    | none => exact Or.inr ⟨rfl, by rw [ofBody, hinterior, hfielded]; rfl⟩
    | some term =>
      simp only [fielded?, Option.bind_eq_bind, Option.bind_eq_some_iff, Option.pure_def,
        Option.some.injEq, Prod.exists] at hfielded
      obtain ⟨name, symbol, value, hparts, operator, hoperator, rfl⟩ := hfielded
      refine Or.inl ⟨name, symbol, value, operator, rfl, splits_of_parts? hparts, hoperator, ?_⟩
      rw [ofBody, hinterior]
      simp [fielded?, hparts, hoperator]

theorem ofBody_of_splits {body name symbol value : Text} {operator : Operator}
    (h : Splits body name symbol value) (hoperator : ofSymbol? symbol = some operator)
    (negated : Bool) :
    ofBody body negated = onField (Field.ofName name) operator value negated := by
  have hinterior : interior? body = none := by
    obtain ⟨c, hhead, hc⟩ := h.exists_head?
    refine interior?_eq_none_of_head hhead ⟨?_, ?_⟩
    · rintro rfl
      exact absurd hc (by decide)
    · rintro rfl
      exact absurd hc (by decide)
  rw [ofBody, hinterior]
  simp [fielded?, parts?_of_splits h, hoperator]

end Term

end CardCatalog
