import CardCatalog.Token
import CardCatalog.Term

/-!
# Queries

A query is what an expression asks for: its terms and the way in which they are joined. The words
AND, OR and NOT are no terms; a single OR anywhere joins all terms by OR, as there is no grouping.
A token that repeats an earlier one letter for letter adds nothing.
-/

namespace CardCatalog

/-- How the terms of a query are joined. -/
inductive Combinator where
  | and
  | or
  deriving DecidableEq, Repr

/-- The word for the combinator. -/
def Combinator.word : Combinator → Text
  | .and => "AND"
  | .or => "OR"

/-- What an expression asks for. -/
structure Query where
  combinator : Combinator
  terms : List Term
  deriving DecidableEq, Repr

namespace Query

/-- The token is the word OR. -/
def isOr (token : Text) : Bool := Text.sameWord token "OR"

/-- The token joins terms and is none itself. -/
def isJoiningWord (token : Text) : Bool :=
  Text.sameWord token "AND" || isOr token || Text.sameWord token "NOT"

/-- The tokens that become terms, each once, in order of first occurrence. -/
def termTokens (tokens : List Text) : List Text :=
  (tokens.filter fun token => !isJoiningWord token).eraseDups

/-- The query that a list of tokens spells. -/
def ofTokens (tokens : List Text) : Query where
  combinator := if tokens.any isOr then .or else .and
  terms := (termTokens tokens).map Term.ofToken

/-- The query that an expression spells. -/
def ofText (expression : Text) : Query := ofTokens ((Token.scan expression).map (·.text))

end Query

end CardCatalog
