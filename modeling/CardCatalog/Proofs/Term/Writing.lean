import CardCatalog.Proofs.Term.Grammar
import CardCatalog.Proofs.Token.Segmentation
import CardCatalog.Query

/-!
# Written terms

A term that was read is written as a token that spells it again, though not always with the
characters it was read from: aliases, the second spellings of operators, the exclamation mark of a
phrase and the capitals of a keyword are gone.

* `ofToken_text`: the written term is read as the term it was written from. So two terms that were
  read are written alike only if they are the same (`ofToken_text_and_text_inj`).
* `isWhole_text`, `isOpen_text`: it is a token where the one read was one, and closes its quoted
  spans where that one did.
* `isJoiningWord_text`: it is no joining word unless the one read was.
-/

namespace CardCatalog

open Text Token

namespace Term

open Operator

/-! ## Terms on a field -/

@[simp] theorem onField_field (field : Field) (operator : Operator) (value : Text)
    (negated : Bool) : (onField field operator value negated).field = some field := by
  cases field <;> rfl

/-- The value of a term on a field is the one given, or its small form. -/
theorem onField_value (field : Field) (operator : Operator) (value : Text) (negated : Bool) :
    (onField field operator value negated).value = value ∨
      (onField field operator value negated).value = lower value := by
  cases field
  case is => exact Or.inr rfl
  all_goals exact Or.inl rfl

/-- Small letters and the operator that is kept are kept again. -/
theorem onField_onField (field : Field) (operator : Operator) (value : Text) (negated : Bool) :
    onField field (onField field operator value negated).operator
      (onField field operator value negated).value negated =
        onField field operator value negated := by
  cases field
  case is => simp only [onField, lower_lower]
  all_goals rfl

theorem isValue_lower {value : Text} (h : IsValue value) : IsValue (lower value) := by
  cases hsmall : lower value with
  | nil =>
    rw [lower_eq_nil_iff] at hsmall
    rw [hsmall] at h
    exact h
  | cons d rest =>
    intro hd
    -- an operator character in front is there in the value, which then is nothing else
    have hmark := isMark_of_isSymbolChar hd
    have hhead := (lowered_lower value).head?_of_isMark hmark (by rw [hsmall]; rfl)
    obtain ⟨value', rfl⟩ : ∃ value', value = d :: value' := by
      cases value with
      | nil => cases hhead
      | cons c value' => exact ⟨value', by rw [Option.some.inj hhead]⟩
    obtain rfl := h hd
    rw [lower, lowerAfter, if_neg (by rintro rfl; exact absurd hmark (by decide)),
      lowerChar_of_isMark hmark] at hsmall
    exact (List.cons.inj hsmall).2.symm

theorem isValue_onField {value : Text} (h : IsValue value) (field : Field) (operator : Operator)
    (negated : Bool) : IsValue (onField field operator value negated).value := by
  rcases onField_value field operator value negated with hvalue | hvalue <;> rw [hvalue]
  · exact h
  · exact isValue_lower h

theorem isNameChar_toLower {c : Char} (h : isNameChar c = true) :
    c.toNat < 128 ∧ isNameChar c.toLower = true := by
  have key : ∀ n : Fin 128, isNameChar (Char.ofNat n) = true →
      isNameChar (Char.ofNat n).toLower = true := by
    decide +kernel
  have hlt : c.toNat < 128 := by
    have := isNameChar_iff.1 h
    omega
  refine ⟨hlt, ?_⟩
  simpa [h] using key ⟨c.toNat, hlt⟩

/-- The normal form of a name is a name. -/
theorem isNameChar_of_mem_normalize {name : Text} (hne : name ≠ [])
    (h : ∀ c ∈ name, isNameChar c = true) :
    Field.normalize name ≠ [] ∧ ∀ c ∈ Field.normalize name, isNameChar c = true := by
  have haliases : ∀ pair ∈ Field.aliases, pair.2 ≠ [] ∧ pair.2.all isNameChar = true := by
    decide +kernel
  rw [Field.normalize]
  cases hlookup : Field.aliases.lookup (lower name) with
  | some canonical =>
    obtain ⟨before, after, hmem, -⟩ := List.lookup_eq_some_iff.1 hlookup
    obtain ⟨hne, hall⟩ := haliases (lower name, canonical) (by rw [hmem]; simp)
    exact ⟨hne, List.all_eq_true.1 hall⟩
  | none =>
    rw [Option.getD_none, lower, lowerAfter_of_ascii [] fun c hc => (isNameChar_toLower (h c hc)).1]
    refine ⟨by simpa using hne, fun d hd => ?_⟩
    obtain ⟨c, hc, rfl⟩ := List.mem_map.1 hd
    exact (isNameChar_toLower (h c hc)).2

/-- A term that was read from a split text is written as one. -/
theorem splits_body {body name symbol value : Text} (h : Splits body name symbol value)
    (operator : Operator) (negated : Bool) :
    let term := onField (Field.ofName name) operator value negated
    Splits term.body (Field.normalize name) term.operator.symbol term.value := by
  intro term
  obtain ⟨hne, hchars⟩ := isNameChar_of_mem_normalize h.name_ne_nil h.name_chars
  refine ⟨?_, hne, hchars, symbol_ne_nil _, isSymbolChar_of_mem_symbol _,
    isValue_onField h.value _ _ _⟩
  simp [Term.body, term]

/-! ## Reading what was written -/

theorem ofBody_negated (body : Text) (negated : Bool) : (ofBody body negated).negated = negated := by
  rcases ofBody_cases body negated with ⟨_, _, h⟩ | ⟨name, _, _, _, _, _, _, h⟩ | ⟨_, h⟩ <;> rw [h]
  · rfl
  · cases Field.ofName name <;> rfl
  · rfl

theorem ofBody_body (body : Text) (negated : Bool) :
    ofBody (ofBody body negated).body negated = ofBody body negated := by
  rcases ofBody_cases body negated with
    ⟨phrase, -, h⟩ | ⟨name, symbol, value, operator, -, hsplits, -, h⟩ | ⟨-, h⟩
  · -- a phrase
    have : interior? (free .exact phrase negated).body = some phrase :=
      interior?_eq_some_iff.2 ⟨phrase ++ ['"'], Or.inl rfl, Or.inr rfl⟩
    rw [h, ofBody, this]
  · -- a field with an operator and a value
    rw [h, ofBody_of_splits (splits_body hsplits operator negated) (ofSymbol?_symbol _),
      ← Field.canonicalName_ofName, Field.ofName_canonicalName, onField_onField]
  · -- a word
    rw [h]
    exact h

/-- What a token without its dash spells is not written with a dash. -/
theorem head?_body_ne_dash {body : Text} (h : body.head? ≠ some '-') (negated : Bool) :
    (ofBody body negated).body.head? ≠ some '-' := by
  rcases ofBody_cases body negated with
    ⟨phrase, -, hterm⟩ | ⟨name, symbol, value, operator, -, hsplits, -, hterm⟩ | ⟨-, hterm⟩ <;>
    rw [hterm]
  · simp [free, Term.body]
  · exact (splits_body hsplits operator negated).head?_ne_dash
  · exact h

theorem ofToken_of_head?_ne {token : Text} (h : token.head? ≠ some '-') :
    ofToken token = ofBody token false := by
  unfold ofToken
  split
  · exact absurd rfl h
  · rfl

/-- A token with a dash in front and one without, and how they are written. -/
theorem ofToken_cases (token : Text) :
    (∃ body, token = '-' :: body ∧ ofToken token = ofBody body true ∧
        (ofToken token).text = '-' :: (ofBody body true).body) ∨
      token.head? ≠ some '-' ∧ ofToken token = ofBody token false ∧
        (ofToken token).text = (ofBody token false).body := by
  by_cases h : token.head? = some '-'
  · obtain ⟨body, rfl⟩ := List.head?_eq_some_iff.1 h
    refine Or.inl ⟨body, rfl, rfl, ?_⟩
    rw [ofToken, text, ofBody_negated, if_pos rfl]
  · refine Or.inr ⟨h, ofToken_of_head?_ne h, ?_⟩
    rw [ofToken_of_head?_ne h, text, ofBody_negated, if_neg Bool.false_ne_true]

/-- **A written term is read as the term it was written from.** -/
theorem ofToken_text (token : Text) : ofToken (ofToken token).text = ofToken token := by
  rcases ofToken_cases token with ⟨body, -, hterm, htext⟩ | ⟨hdash, hterm, htext⟩
  · rw [htext, hterm]
    exact ofBody_body body true
  · rw [htext, hterm, ofToken_of_head?_ne (head?_body_ne_dash hdash false), ofBody_body]

/-- **Terms that were read can be told apart by what is written for them**, as each is read again
from it. -/
theorem ofToken_text_and_text_inj (token other : Text) :
    ofToken (ofToken token).text = ofToken token ∧
      ((ofToken token).text = (ofToken other).text ↔ ofToken token = ofToken other) := by
  refine ⟨ofToken_text token, fun h => ?_, congrArg text⟩
  calc
    ofToken token = ofToken (ofToken token).text := (ofToken_text token).symm
    _ = ofToken (ofToken other).text := by rw [h]
    _ = ofToken other := ofToken_text other

/-! ## Written terms as tokens -/

/-- Characters that neither end a token nor open a quoted span change nothing in front. -/
theorem plain_append {s : Text} (h : ∀ c ∈ s, isBlank c = false ∧ c ≠ '"') (quoted : Bool)
    (t : Text) :
    quotesBlanks quoted (s ++ t) = quotesBlanks quoted t ∧
      isOpen quoted (s ++ t) = isOpen quoted t := by
  induction s with
  | nil => exact ⟨rfl, rfl⟩
  | cons c s ih =>
    obtain ⟨hblank, hquote⟩ := h c (by simp)
    have hne : (c == '"') = false := beq_eq_false_iff_ne.2 hquote
    simpa [quotesBlanks, hblank, hne] using ih fun d hd => h d (by simp [hd])

theorem plain_of_isMark_eq_false {c : Char} (h : isMark c = false) :
    isBlank c = false ∧ c ≠ '"' := by
  refine ⟨?_, ?_⟩
  · rw [← Bool.not_eq_true]
    intro hc
    rw [isMark_of_isBlank hc] at h
    cases h
  · rintro rfl
    exact absurd h (by decide)

/-- The small form quotes the blanks that the text quotes. -/
theorem lowered_quotes {t u : Text} (h : Lowered t u) (quoted : Bool) :
    quotesBlanks quoted u = quotesBlanks quoted t ∧ isOpen quoted u = isOpen quoted t := by
  induction h generalizing quoted with
  | nil => exact ⟨rfl, rfl⟩
  | @cons c form t u hform _ ih =>
    cases hc : isMark c with
    | true =>
      obtain ⟨hblanks, hopen⟩ := ih (quoted != (c == '"'))
      simp only [hform.of_isMark hc, List.singleton_append, quotesBlanks, isOpen_cons, hblanks,
        hopen, and_self]
    | false =>
      have hplain : ∀ d ∈ form, isBlank d = false ∧ d ≠ '"' := by
        intro d hd
        refine plain_of_isMark_eq_false (Bool.eq_false_iff.2 fun hmark => ?_)
        rw [hform.eq_of_isMark d hd hmark, hc] at hmark
        cases hmark
      have hsingle : ∀ d ∈ [c], isBlank d = false ∧ d ≠ '"' := by
        simpa using plain_of_isMark_eq_false hc
      obtain ⟨hblanks, hopen⟩ := plain_append hplain quoted u
      obtain ⟨hblanks', hopen'⟩ := plain_append hsingle quoted t
      rw [List.singleton_append] at hblanks' hopen'
      rw [hblanks, hopen, hblanks', hopen']
      exact ih quoted

theorem plain_of_isNameChar {c : Char} (h : isNameChar c = true) :
    isBlank c = false ∧ c ≠ '"' := by
  have hcode := isNameChar_iff.1 h
  refine ⟨?_, ?_⟩
  · simp only [isBlank, blankRanges, CodeRanges.contains, List.any_cons, List.any_nil,
      Bool.or_eq_false_iff, Bool.and_eq_false_iff, decide_eq_false_iff_not, and_true]
    omega
  · rintro rfl
    exact absurd h (by decide)

theorem plain_of_isSymbolChar {c : Char} (h : isSymbolChar c = true) :
    isBlank c = false ∧ c ≠ '"' := by
  rcases isSymbolChar_iff.1 h with rfl | rfl | rfl | rfl <;> decide

/-- Of a text that is split, only the value can have blanks and quotes. -/
theorem Splits.quotes {body name symbol value : Text} (h : Splits body name symbol value) :
    quotesBlanks false body = quotesBlanks false value ∧
      isOpen false body = isOpen false value := by
  rw [h.body_eq]
  refine plain_append (List.forall_mem_append.2 ⟨fun c hc => ?_, fun c hc => ?_⟩) false value
  · exact plain_of_isNameChar (h.name_chars c hc)
  · exact plain_of_isSymbolChar (h.symbol_chars c hc)

theorem onField_quotes (field : Field) (operator : Operator) (value : Text) (negated : Bool) :
    quotesBlanks false (onField field operator value negated).value = quotesBlanks false value ∧
      isOpen false (onField field operator value negated).value = isOpen false value := by
  rcases onField_value field operator value negated with h | h <;> rw [h]
  · exact ⟨rfl, rfl⟩
  · exact lowered_quotes (lowered_lower value) false

theorem body_quotes {body : Text} (h : quotesBlanks false body = true) (negated : Bool) :
    quotesBlanks false (ofBody body negated).body = true ∧
      (isOpen false body = false → isOpen false (ofBody body negated).body = false) := by
  rcases ofBody_cases body negated with
    ⟨phrase, hphrase, hterm⟩ | ⟨name, symbol, value, operator, -, hsplits, -, hterm⟩ | ⟨-, hterm⟩ <;>
    rw [hterm]
  · obtain ⟨rest, hbody, hrest⟩ := interior?_eq_some_iff.1 hphrase
    rcases hrest with ⟨rfl, rfl⟩ | hrest
    · -- the quote that was both is written twice
      exact ⟨rfl, fun _ => rfl⟩
    · have hwritten : (free .exact phrase negated).body = '"' :: rest := by
        rw [hrest]
        rfl
      rw [hwritten]
      rcases hbody with rfl | rfl
      · exact ⟨h, id⟩
      · have hbang : ∀ c ∈ ['!'], isBlank c = false ∧ c ≠ '"' :=
          List.forall_mem_singleton.2 (by decide)
        obtain ⟨hblanks, hopen⟩ := plain_append hbang false ('"' :: rest)
        rw [List.singleton_append] at hblanks hopen
        rw [← hblanks, ← hopen]
        exact ⟨h, id⟩
  · obtain ⟨hblanks, hopen⟩ := hsplits.quotes
    obtain ⟨hblanks', hopen'⟩ := (splits_body hsplits operator negated).quotes
    obtain ⟨hvalue, hvalue'⟩ := onField_quotes (Field.ofName name) operator value negated
    rw [hblanks', hopen', hvalue, hvalue', ← hblanks, ← hopen]
    exact ⟨h, id⟩
  · exact ⟨h, id⟩

theorem body_ne_nil {body : Text} (h : body ≠ []) (negated : Bool) :
    (ofBody body negated).body ≠ [] := by
  rcases ofBody_cases body negated with
    ⟨phrase, -, hterm⟩ | ⟨name, symbol, value, operator, -, hsplits, -, hterm⟩ | ⟨-, hterm⟩ <;>
    rw [hterm]
  · simp [free, Term.body]
  · rw [(splits_body hsplits operator negated).body_eq]
    simp [(splits_body hsplits operator negated).name_ne_nil]
  · exact h

theorem text_quotes {token : Text} (h : quotesBlanks false token = true) :
    quotesBlanks false (ofToken token).text = true ∧
      (isOpen false token = false → isOpen false (ofToken token).text = false) := by
  rcases ofToken_cases token with ⟨body, rfl, -, htext⟩ | ⟨-, -, htext⟩ <;> rw [htext]
  · have hdash : ∀ c ∈ ['-'], isBlank c = false ∧ c ≠ '"' := List.forall_mem_singleton.2 (by decide)
    have hfront := plain_append hdash false
    simp only [List.singleton_append] at hfront
    rw [(hfront _).1, (hfront _).2, (hfront _).2]
    exact body_quotes ((hfront _).1.symm.trans h) true
  · exact body_quotes h false

/-- **What is written for a token is a token.** -/
theorem isWhole_text {token : Text} (h : IsWhole token) : IsWhole (ofToken token).text where
  ne_nil := by
    rcases ofToken_cases token with ⟨body, -, -, htext⟩ | ⟨-, -, htext⟩ <;> rw [htext]
    · exact List.cons_ne_nil _ _
    · exact body_ne_nil h.ne_nil false
  blanks_quoted := (text_quotes h.blanks_quoted).1

theorem isOpen_text {token : Text} (h : IsWhole token) (hopen : isOpen false token = false) :
    isOpen false (ofToken token).text = false := (text_quotes h.blanks_quoted).2 hopen

/-! ## Joining words -/

/-- Joining words consist of few letters. -/
theorem toLower_mem_of_isJoiningWord {t : Text} (h : Query.isJoiningWord t = true) :
    ∀ c ∈ t, c.toLower ∈ ['a', 'n', 'd', 'o', 'r', 't'] := by
  have hletters : t.map Char.toLower ⊆ ['a', 'n', 'd', 'o', 'r', 't'] := by
    simp only [Query.isJoiningWord, Query.isOr, sameWord, Bool.or_eq_true, beq_iff_eq] at h
    rcases h with (h | h) | h <;> rw [h] <;> decide
  exact fun c hc => hletters (List.mem_map_of_mem hc)

/-- A dash, a quote and an operator character stand in no joining word. -/
theorem isJoiningWord_eq_false_of_mem {t : Text} {c : Char} (hmem : c ∈ t)
    (hc : c = '-' ∨ c = '"' ∨ isSymbolChar c = true) : Query.isJoiningWord t = false := by
  refine Bool.eq_false_iff.2 fun hjoin => ?_
  have hletter := toLower_mem_of_isJoiningWord hjoin c hmem
  rw [isSymbolChar_iff] at hc
  rcases hc with rfl | rfl | rfl | rfl | rfl | rfl <;> exact absurd hletter (by decide)

/-- A term on a field is no joining word. -/
theorem Splits.isJoiningWord_eq_false {body name symbol value : Text}
    (h : Splits body name symbol value) : Query.isJoiningWord body = false := by
  obtain ⟨c, symbol', rfl⟩ := List.exists_cons_of_ne_nil h.symbol_ne_nil
  refine isJoiningWord_eq_false_of_mem (c := c) ?_ (Or.inr (Or.inr (h.symbol_chars c (by simp))))
  rw [h.body_eq]
  simp

/-- What is written for a token is no joining word, unless the token is one. -/
theorem isJoiningWord_text {token : Text} (h : Query.isJoiningWord token = false) :
    Query.isJoiningWord (ofToken token).text = false := by
  rcases ofToken_cases token with ⟨body, -, -, htext⟩ | ⟨-, -, htext⟩ <;> rw [htext]
  · exact isJoiningWord_eq_false_of_mem List.mem_cons_self (Or.inl rfl)
  · rcases ofBody_cases token false with
      ⟨phrase, -, hterm⟩ | ⟨name, symbol, value, operator, -, hsplits, -, hterm⟩ | ⟨-, hterm⟩ <;>
      rw [hterm]
    · have hquote : '"' ∈ (free .exact phrase false).body := by simp [free, Term.body]
      exact isJoiningWord_eq_false_of_mem hquote (Or.inr (Or.inl rfl))
    · exact (splits_body hsplits operator false).isJoiningWord_eq_false
    · exact h

end Term

end CardCatalog
