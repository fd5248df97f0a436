import CardCatalog.Field.Suggestion
import CardCatalog.Filter.Compile

/-!
# Diagnostics

No expression is refused: what cannot be used is passed over. A diagnostic names a term, or the
part of one, that has no effect on the filter, so that it can be shown why a search finds more than
was expected.

`Diagnostic.ofQuery` goes through the terms in order. An unknown field is reported at its first
term, and of several formats all but the first.
-/

namespace CardCatalog

/-- Why a term has no effect. -/
inductive Diagnostic where
  /-- The field has no rule; perhaps another was meant. -/
  | unknownField (field : Text) (suggestion : Option Text)
  /-- A negated term, given as its token. -/
  | ignoredNegation (term : Text)
  /-- An integer field is compared with something else. -/
  | nonIntegerValue (field value : Text)
  /-- A format after the first. -/
  | extraFormat (value : Text)
  /-- A text or a keyword list with nothing in it, given as its token. -/
  | emptyValue (term : Text)
  deriving DecidableEq, Repr

namespace Term

/-- The term sets the flag for unique cards, whether it is negated or not. -/
def setsUnique (term : Term) : Bool :=
  term.field == some .is && Text.sameWord term.value uniqueWord

/-- The character separates keywords. -/
def isKeywordSeparator (c : Char) : Bool := c == '|' || c == '&'

/-- The value is a list of keywords without a keyword in it. -/
def listsNothing (value : Text) : Bool :=
  value.any isKeywordSeparator &&
    (Text.pieces isKeywordSeparator value).all fun piece => (Text.trim piece).isEmpty

/-- The term asks for nothing because its value is empty. -/
def isEmpty (term : Term) : Bool :=
  match term.field with
  | none | some .text | some .name => term.value.isEmpty
  | some .is => listsNothing term.value
  | _ => false

end Term

namespace Diagnostic

/-- What earlier terms have shown: the unknown fields already reported, and whether there was a
format. -/
structure Seen where
  fields : List Text
  format : Bool

/-- The diagnostic of a term that is not ignored for being negated. -/
def ofTerm? (seen : Seen) (term : Term) : Option Diagnostic :=
  match term.field with
  | some (.other name) =>
    if seen.fields.contains name then none else some (.unknownField name (Field.suggest? name))
  | some (.numeric which) =>
    if (Integer.read? term.value).isNone then some (.nonIntegerValue which.name term.value) else none
  | some .format => if seen.format then some (.extraFormat term.value) else none
  | _ => if term.isEmpty then some (.emptyValue term.text) else none

/-- What is known after a term that is not negated. -/
def Seen.after (seen : Seen) (term : Term) : Seen :=
  match term.field with
  | some (.other name) => { seen with fields := name :: seen.fields }
  | some .format => { seen with format := true }
  | _ => seen

/-- The diagnostics of terms that follow what has been seen. -/
def ofTerms (seen : Seen) : List Term → List Diagnostic
  | [] => []
  | term :: rest =>
    if term.negated && !term.setsUnique then .ignoredNegation term.text :: ofTerms seen rest
    else (ofTerm? seen term).toList ++ ofTerms (seen.after term) rest

/-- The terms of a query that have no effect, in order. -/
def ofQuery (query : Query) : List Diagnostic := ofTerms ⟨[], false⟩ query.terms

/-- The diagnostic as a sentence without its full stop. -/
def message : Diagnostic → Text
  | unknownField field suggestion =>
    "unknown field '" ++ field ++ "' is ignored" ++
      match suggestion with
      | some name => ". Did you mean '" ++ name ++ "'?"
      | none => []
  | ignoredNegation term => "negated term '" ++ term ++ "' is ignored"
  | nonIntegerValue field value =>
    "'" ++ value ++ "' is not an integer, " ++ field ++ " comparison is ignored"
  | extraFormat value => "only the first format is used, 'format:" ++ value ++ "' is ignored"
  | emptyValue term => "'" ++ term ++ "' has an empty value and is ignored"

end Diagnostic

end CardCatalog
