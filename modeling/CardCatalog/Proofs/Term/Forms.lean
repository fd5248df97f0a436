import CardCatalog.Proofs.Term.Grammar
import CardCatalog.Proofs.Term.Writing
import Mathlib.Data.Set.Subsingleton

/-!
# The forms of a token

The grammar of tokens as a relation, said without reading from the left. A body is a phrase, or it
is made up of the parts of a comparison, or it is a word, which is all that is neither
(`Term.IsBodyOf`). A dash in front of it negates (`Term.HasBody`).

The parts of a comparison are any name, any spelling of an operator and any value that can be found
in the body; that there is one way at most is a theorem. Every token is read as the one term of
which it has the form (`Term.ofToken_eq_iff_hasForm`).
-/

namespace CardCatalog

open Text

theorem Operator.ofSymbol?_eq_some_iff {symbol : Text} {operator : Operator} :
    ofSymbol? symbol = some operator ↔ (symbol, operator) ∈ spellings := by
  have key : ∀ spelling ∈ spellings, ofSymbol? spelling.1 = some spelling.2 := by decide
  constructor
  · intro h
    obtain ⟨before, after, hspellings, -⟩ := List.lookup_eq_some_iff.1 h
    rw [hspellings]
    simp
  · exact key (symbol, operator)

namespace Term

/-! ## Phrases -/

/-- The body without an exclamation mark directly in front of a quote. -/
def withoutMark : Text → Text
  | '!' :: '"' :: rest => '"' :: rest
  | body => body

/-- The body starts and ends with a quote; one quote can be both. -/
def IsPhrase (body : Text) : Prop :=
  (withoutMark body).head? = some '"' ∧ (withoutMark body).getLast? = some '"'

instance : DecidablePred IsPhrase := fun _ => inferInstanceAs (Decidable (_ ∧ _))

/-- What stands between the quotes of a phrase. -/
def interior (body : Text) : Text := (withoutMark body).tail.dropLast

theorem untilLastQuote?_eq (rest : Text) :
    untilLastQuote? rest =
      if ('"' :: rest).getLast? = some '"' then some rest.dropLast else none := by
  cases rest with
  | nil => rfl
  | cons c rest => simp [untilLastQuote?]

theorem interior?_eq (body : Text) :
    interior? body = if IsPhrase body then some (interior body) else none := by
  unfold interior? IsPhrase interior withoutMark
  split
  · simp [untilLastQuote?_eq]
  · simp [untilLastQuote?_eq]
  · next hmark hquote =>
    have hhead : body.head? ≠ some '"' := by
      intro h
      obtain ⟨rest, rfl⟩ := List.head?_eq_some_iff.1 h
      exact hquote rest rfl
    simp [hhead]

/-! ## Comparisons -/

/-- A name, an operator as it is spelt, and a value. -/
structure Comparison where
  name : Text
  symbol : Text
  operator : Operator
  value : Text

namespace Comparison

/-- The body is the name, the operator and the value in a row. The name consists of letters and
underscores, and the value starts with no operator character, unless it is nothing else. -/
structure MakesUp (comparison : Comparison) (body : Text) : Prop where
  body_eq : body = comparison.name ++ comparison.symbol ++ comparison.value
  name_ne_nil : comparison.name ≠ []
  name_chars : ∀ c ∈ comparison.name, isNameChar c = true
  symbol : (comparison.symbol, comparison.operator) ∈ Operator.spellings
  value : IsValue comparison.value

/-- The term with the parts of the comparison. Of keywords nothing is kept but the field and the
small letters of the value. -/
def term (comparison : Comparison) (negated : Bool) : Term :=
  if Field.ofName comparison.name = .is then ⟨some .is, .contains, lower comparison.value, negated⟩
  else ⟨some (Field.ofName comparison.name), comparison.operator, comparison.value, negated⟩

theorem term_eq (comparison : Comparison) (negated : Bool) :
    comparison.term negated = onField (Field.ofName comparison.name) comparison.operator
      comparison.value negated := by
  rw [term]
  cases Field.ofName comparison.name <;> rfl

theorem makesUp_iff {comparison : Comparison} {body : Text} :
    comparison.MakesUp body ↔
      Splits body comparison.name comparison.symbol comparison.value ∧
        Operator.ofSymbol? comparison.symbol = some comparison.operator := by
  constructor
  · intro h
    have hchars : ∀ spelling ∈ Operator.spellings,
        spelling.1 ≠ [] ∧ spelling.1.all Operator.isSymbolChar = true := by decide
    obtain ⟨hne, hsymbol⟩ := hchars _ h.symbol
    exact ⟨⟨h.body_eq, h.name_ne_nil, h.name_chars, hne, List.all_eq_true.1 hsymbol, h.value⟩,
      Operator.ofSymbol?_eq_some_iff.2 h.symbol⟩
  · rintro ⟨h, hoperator⟩
    exact ⟨h.body_eq, h.name_ne_nil, h.name_chars, Operator.ofSymbol?_eq_some_iff.1 hoperator,
      h.value⟩

/-- **There is one way at most to find a comparison in a body.** -/
theorem eq_of_makesUp {first second : Comparison} {body : Text} (hfirst : first.MakesUp body)
    (hsecond : second.MakesUp body) : first = second := by
  obtain ⟨hsplits, hoperator⟩ := makesUp_iff.1 hfirst
  obtain ⟨hsplits', hoperator'⟩ := makesUp_iff.1 hsecond
  have hparts := parts?_of_splits hsplits
  rw [parts?_of_splits hsplits', Option.some.injEq] at hparts
  cases first with
  | mk name symbol operator value =>
    cases second with
    | mk name' symbol' operator' value' =>
      obtain ⟨rfl, rfl, rfl⟩ : name' = name ∧ symbol' = symbol ∧ value' = value := by
        simpa using hparts
      obtain rfl : operator' = operator := by
        simpa using hoperator'.symm.trans hoperator
      rfl

end Comparison

/-! ## Tokens -/

/-- The body of a token with a dash in front is what stands behind the dash, and is negated; every
other token is its own body. -/
inductive HasBody : Text → Bool → Text → Prop
  | negated (body : Text) : HasBody ('-' :: body) true body
  | plain {body : Text} (h : body.head? ≠ some '-') : HasBody body false body

/-- The body has the form of the term. -/
inductive IsBodyOf (body : Text) (negated : Bool) : Term → Prop
  | phrase (h : IsPhrase body) : IsBodyOf body negated ⟨none, .exact, interior body, negated⟩
  | comparison (hphrase : ¬ IsPhrase body) {comparison : Comparison}
      (h : comparison.MakesUp body) : IsBodyOf body negated (comparison.term negated)
  | word (hphrase : ¬ IsPhrase body) (h : ¬ ∃ comparison : Comparison, comparison.MakesUp body) :
      IsBodyOf body negated ⟨none, .contains, body, negated⟩

/-- The token has the form of the term. -/
def HasForm (token : Text) (term : Term) : Prop :=
  ∃ body negated, HasBody token negated body ∧ IsBodyOf body negated term

theorem exists_isBodyOf (body : Text) (negated : Bool) : ∃ term, IsBodyOf body negated term := by
  by_cases hphrase : IsPhrase body
  · exact ⟨_, .phrase hphrase⟩
  · by_cases hcomparison : ∃ comparison : Comparison, comparison.MakesUp body
    · obtain ⟨comparison, h⟩ := hcomparison
      exact ⟨_, .comparison hphrase h⟩
    · exact ⟨_, .word hphrase hcomparison⟩

theorem IsBodyOf.ofBody_eq {body : Text} {negated : Bool} {term : Term}
    (h : IsBodyOf body negated term) : ofBody body negated = term := by
  cases h with
  | phrase hphrase =>
    rw [ofBody, interior?_eq, if_pos hphrase]
    rfl
  | @comparison hphrase comparison h =>
    obtain ⟨hsplits, hoperator⟩ := Comparison.makesUp_iff.1 h
    rw [comparison.term_eq, ofBody_of_splits hsplits hoperator]
  | word hphrase hno =>
    rcases ofBody_cases body negated with
      ⟨phrase, hinterior, -⟩ | ⟨name, symbol, value, operator, -, hsplits, hoperator, -⟩ | ⟨-, hterm⟩
    · rw [interior?_eq, if_neg hphrase] at hinterior
      cases hinterior
    · exact absurd ⟨⟨name, symbol, operator, value⟩,
        Comparison.makesUp_iff.2 ⟨hsplits, hoperator⟩⟩ hno
    · exact hterm

theorem ofBody_eq_iff {body : Text} {negated : Bool} {term : Term} :
    ofBody body negated = term ↔ IsBodyOf body negated term := by
  constructor
  · rintro rfl
    obtain ⟨term, h⟩ := exists_isBodyOf body negated
    rwa [h.ofBody_eq]
  · exact IsBodyOf.ofBody_eq

theorem HasBody.ofToken_eq {token body : Text} {negated : Bool} (h : HasBody token negated body) :
    ofToken token = ofBody body negated := by
  cases h with
  | negated => rfl
  | plain h => exact ofToken_of_head?_ne h

theorem exists_hasBody (token : Text) : ∃ body negated, HasBody token negated body := by
  rcases ofToken_cases token with ⟨body, rfl, -, -⟩ | ⟨hdash, -, -⟩
  · exact ⟨body, true, .negated body⟩
  · exact ⟨token, false, .plain hdash⟩

/-- **A token is read as the term of which it has the form**, and there is one way at most to find
a name, an operator and a value in a body. -/
theorem ofToken_eq_iff_hasForm (token : Text) (term : Term) :
    (ofToken token = term ↔ HasForm token term) ∧
      ∀ body, {comparison : Comparison | comparison.MakesUp body}.Subsingleton := by
  constructor
  · constructor
    · intro h
      obtain ⟨body, negated, hbody⟩ := exists_hasBody token
      exact ⟨body, negated, hbody, ofBody_eq_iff.1 (hbody.ofToken_eq.symm.trans h)⟩
    · rintro ⟨body, negated, hbody, h⟩
      rw [hbody.ofToken_eq, h.ofBody_eq]
  · exact fun body _ hfirst _ hsecond => Comparison.eq_of_makesUp hfirst hsecond

end Term

end CardCatalog
