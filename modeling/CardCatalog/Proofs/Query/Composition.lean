import CardCatalog.Proofs.Query.Distinct
import CardCatalog.Proofs.Token.Lossless
import CardCatalog.Query

/-!
# Expressions one after the other

An expression that closes its quoted spans can be followed by blanks and a further expression. The
whole is read as the two are, one by one: the tokens of the second stand behind those of the first,
one OR in either joins all terms, and of the second only those tokens become terms that the first
does not have (`ofText_append`). To repeat an expression adds nothing.

The tokens of the two are put together first (`Token.texts_append`), then what lists of tokens spell
(`termTokens_append`, `combinator_ofTokens_append`).
-/

namespace CardCatalog

open Text

namespace Token

/-- The texts of the tokens of an expression. -/
def texts (expression : Text) : List Text := (scan expression).map (·.text)

theorem texts_append {s ws : Text} (hopen : isOpen false s = false) (hne : ws ≠ [])
    (hws : ∀ c ∈ ws, isBlank c = true) (t : Text) :
    texts (s ++ (ws ++ t)) = texts s ++ texts t := by
  rw [texts, scan_append_blanks hopen hne hws, List.map_append, map_text_shift, texts, texts]

end Token

namespace Query

open Token

/-! ## Lists of tokens -/

theorem combinator_ofTokens_eq_or_iff {tokens : List Text} :
    (ofTokens tokens).combinator = .or ↔ tokens.any isOr = true := by
  simp [ofTokens]

theorem combinator_ofTokens_append (tokens more : List Text) :
    (ofTokens (tokens ++ more)).combinator = .or ↔
      (ofTokens tokens).combinator = .or ∨ (ofTokens more).combinator = .or := by
  simp only [combinator_ofTokens_eq_or_iff, List.any_append, Bool.or_eq_true]

theorem mem_termTokens_iff {tokens : List Text} {token : Text} :
    token ∈ termTokens tokens ↔ token ∈ tokens ∧ isJoiningWord token = false := by
  rw [termTokens, List.mem_eraseDups, List.mem_filter, Bool.not_eq_true']

/-- Of further tokens those become terms that are not there already. -/
theorem termTokens_append (tokens more : List Text) :
    termTokens (tokens ++ more) =
      termTokens tokens ++ (termTokens more).filter (· ∉ tokens) := by
  let spelling := more.filter fun token => !isJoiningWord token
  -- a token that becomes a term is among the tokens just if it is among those that do
  have hnew : spelling.removeAll (tokens.filter fun token => !isJoiningWord token) =
      spelling.filter (· ∉ tokens) := by
    refine List.filter_congr fun token htoken => ?_
    have hjoin : (!isJoiningWord token) = true := (List.mem_filter.1 htoken).2
    simp [List.mem_filter, hjoin]
  calc
    termTokens (tokens ++ more) = termTokens tokens ++ (spelling.removeAll
        (tokens.filter fun token => !isJoiningWord token)).eraseDups := by
      rw [termTokens, List.filter_append, List.eraseDups_append, termTokens]
    _ = termTokens tokens ++ (termTokens more).filter (· ∉ tokens) := by
      rw [hnew, eraseDups_filter]
      rfl

theorem terms_ofTokens_append (tokens more : List Text) :
    (ofTokens (tokens ++ more)).terms =
      (ofTokens tokens).terms ++ ((termTokens more).filter (· ∉ tokens)).map Term.ofToken := by
  simp only [ofTokens, termTokens_append, List.map_append]

/-- Tokens that are repeated add nothing. -/
theorem ofTokens_append_self (tokens : List Text) :
    ofTokens (tokens ++ tokens) = ofTokens tokens := by
  have hnone : (termTokens tokens).filter (· ∉ tokens) = [] := by
    refine List.filter_eq_nil_iff.2 fun token htoken => ?_
    simpa using (mem_termTokens_iff.1 htoken).1
  simp only [ofTokens, termTokens_append, hnone, List.append_nil, List.any_append, Bool.or_self]

/-! ## Expressions -/

/-- **Expressions compose**: with blanks between them, and the first closing its quotes, two
expressions are read one by one. -/
theorem ofText_append (first blanks second : Text) (hquotes : Even (first.count '"'))
    (hne : blanks ≠ []) (hblanks : ∀ c ∈ blanks, isBlank c = true) :
    scan (first ++ blanks ++ second) =
        scan first ++
          (scan second).map (shift (String.ofList (first ++ blanks)).utf8ByteSize) ∧
      ((ofText (first ++ blanks ++ second)).combinator = .or ↔
        (ofText first).combinator = .or ∨ (ofText second).combinator = .or) ∧
      (ofText (first ++ blanks ++ second)).terms =
        (ofText first).terms ++
          ((termTokens (texts second)).filter (· ∉ texts first)).map Term.ofToken ∧
      ofText (first ++ blanks ++ first) = ofText first := by
  have hopen : isOpen false first = false := by
    rw [← Bool.not_eq_true, isOpen_iff, Nat.not_odd_iff_even]
    exact hquotes
  have htokens : ∀ more, ofText (first ++ blanks ++ more) = ofTokens (texts first ++ texts more) :=
    fun more => by
      rw [ofText, ← texts, List.append_assoc, texts_append hopen hne hblanks]
  refine ⟨?_, ?_, ?_, ?_⟩
  · rw [List.append_assoc, scan_append_blanks hopen hne hblanks, utf8Size_eq_utf8ByteSize]
  · rw [htokens]
    exact combinator_ofTokens_append _ _
  · rw [htokens]
    exact terms_ofTokens_append _ _
  · rw [htokens]
    exact ofTokens_append_self _

/-- The second expression repeats a token of the first, whose phrase holds a blank, and joins all
terms by OR. -/
theorem append_with_repeated_token :
    let first : Text := "clan:Crane \"Doji Hoturi\""
    let blanks : Text := " \t"
    let second : Text := "force>3 or clan:Crane"
    Even (first.count '"') ∧ blanks ≠ [] ∧ (∀ c ∈ blanks, isBlank c = true) ∧
      (ofText (first ++ blanks ++ second)).combinator = .or ∧
      (ofText (first ++ blanks ++ second)).terms =
        (ofText first).terms ++ [Term.ofToken "force>3"] := by
  intro first blanks second
  have hquotes : Even (first.count '"') := by decide
  have hblanks : ∀ c ∈ blanks, isBlank c = true := List.all_eq_true.1 (by decide)
  obtain ⟨-, hcombinator, hterms, -⟩ :=
    ofText_append first blanks second hquotes (by decide) hblanks
  have hnew : (termTokens (texts second)).filter (· ∉ texts first) = [("force>3" : Text)] := by
    decide +kernel
  refine ⟨hquotes, by decide, hblanks, hcombinator.2 (Or.inr (by decide +kernel)), ?_⟩
  rw [hterms, hnew, List.map_singleton]

end Query

end CardCatalog
