import CardCatalog.Proofs.Query.Distinct
import CardCatalog.Proofs.Term.Writing

/-!
# Queries written and read

`Query.text` writes a query as an expression. A query that was read from an expression is read
again from what is written for it (`ofText_text`), except that terms which were spelt differently
are now one and the same token: each term stays once.
-/

namespace CardCatalog

open Text Token

namespace Query

/-- The expression that spells a query: its terms with spaces between them, behind the word OR if
they are joined by it. -/
def text (query : Query) : Text :=
  (match query.combinator with
    | .and => []
    | .or => "OR ") ++ List.intercalate [' '] (query.terms.map Term.text)

/-- The tokens of an expression that spells a query. -/
def tokens (query : Query) : List Text :=
  (match query.combinator with
    | .and => []
    | .or => ["OR"]) ++ query.terms.map Term.text

theorem isWhole_or : IsWhole ("OR" : Text) := ⟨by decide, by decide⟩

/-- A query is read token by token as it is written, if its terms are tokens. -/
theorem scan_text {query : Query} (hwhole : ∀ t ∈ query.terms.map Term.text, IsWhole t)
    (hopen : (query.terms.map Term.text).Pairwise fun t _ => isOpen false t = false) :
    (scan query.text).map (·.text) = query.tokens := by
  have hterms := scan_intercalate hwhole hopen
  rw [text, tokens]
  cases query.combinator with
  | and => exact hterms
  | or =>
    have hsplit : ("OR " : Text) ++ List.intercalate [' '] (query.terms.map Term.text) =
        ("OR" : Text) ++ ' ' :: List.intercalate [' '] (query.terms.map Term.text) := rfl
    simp only [hsplit]
    rw [scan_append (by decide) (by decide), List.map_append, map_text_shift,
      scan_of_isWhole isWhole_or, hterms]
    rfl

/-- The terms of a query that was read are written as tokens, of which only the last can have a
quoted span open behind it, and none is a joining word. -/
theorem texts_ofText (expression : Text) :
    (∀ t ∈ (ofText expression).terms.map Term.text,
        IsWhole t ∧ isJoiningWord t = false) ∧
      ((ofText expression).terms.map Term.text).Pairwise fun t _ => isOpen false t = false := by
  have hscan := segments_scan expression
  have hsublist : List.Sublist (termTokens ((scan expression).map (·.text)))
      ((scan expression).map (·.text)) := (eraseDups_sublist _).trans List.filter_sublist
  have hwhole : ∀ t ∈ termTokens ((scan expression).map (·.text)), IsWhole t :=
    fun t ht => hscan.isWhole t (hsublist.mem ht)
  rw [ofText, ofTokens, List.map_map]
  constructor
  · intro t ht
    obtain ⟨token, htoken, rfl⟩ := List.mem_map.1 ht
    have hjoin : isJoiningWord token = false := by
      rw [termTokens, List.mem_eraseDups, List.mem_filter] at htoken
      simpa using htoken.2
    exact ⟨Term.isWhole_text (hwhole token htoken), Term.isJoiningWord_text hjoin⟩
  · rw [List.pairwise_map]
    refine (hscan.pairwise.sublist hsublist).imp_of_mem fun htoken _ hopen => ?_
    exact Term.isOpen_text (hwhole _ htoken) hopen

theorem isOr_eq_false_of_not_joining {t : Text} (h : isJoiningWord t = false) :
    isOr t = false := by
  rw [isJoiningWord, Bool.or_eq_false_iff, Bool.or_eq_false_iff] at h
  exact h.1.2

/-- The combinator and the terms of the tokens of a query. -/
theorem ofTokens_tokens {query : Query}
    (hjoin : ∀ t ∈ query.terms.map Term.text, isJoiningWord t = false)
    (hread : ∀ term ∈ query.terms, Term.ofToken term.text = term) :
    ofTokens query.tokens = ⟨query.combinator, query.terms.eraseDups⟩ := by
  have hor : (query.terms.map Term.text).any isOr = false := by
    rw [List.any_eq_false]
    exact fun t ht => by simp [isOr_eq_false_of_not_joining (hjoin t ht)]
  have hterms : termTokens query.tokens = (query.terms.map Term.text).eraseDups := by
    have hkeep : (query.terms.map Term.text).filter (fun t => !isJoiningWord t) =
        query.terms.map Term.text :=
      List.filter_eq_self.2 fun t ht => by simp [hjoin t ht]
    rw [termTokens, tokens, List.filter_append, hkeep]
    cases query.combinator <;> rfl
  have hcombinator : (query.tokens.any isOr) = (query.combinator == .or) := by
    rw [tokens, List.any_append, hor]
    cases query.combinator <;> rfl
  rw [ofTokens, hterms, hcombinator, map_eraseDups_map hread]
  cases query.combinator <;> rfl

/-- **A query that was read from an expression is read again from what is written for it**: the
combinator is the same, and so are the terms, each in the place of its first occurrence. -/
theorem ofText_text (expression : Text) :
    ofText (ofText expression).text =
      ⟨(ofText expression).combinator, (ofText expression).terms.eraseDups⟩ := by
  obtain ⟨htexts, hopen⟩ := texts_ofText expression
  have hread : ∀ term ∈ (ofText expression).terms, Term.ofToken term.text = term := by
    intro term hterm
    obtain ⟨token, -, rfl⟩ := List.mem_map.1 hterm
    exact Term.ofToken_text token
  rw [ofText, scan_text (fun t ht => (htexts t ht).1) hopen]
  exact ofTokens_tokens (fun t ht => (htexts t ht).2) hread

/-- Three spellings of one term, and a phrase that is still open. -/
example : ofText (ofText "F=>3 or force=>3 f>=3 is:Cav \"Doji").text =
    ⟨.or, (ofText "force>=3 or is:cav \"Doji").terms⟩ := by
  decide +kernel

end Query

end CardCatalog
