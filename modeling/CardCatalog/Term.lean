import CardCatalog.Field
import CardCatalog.Operator

/-!
# Terms

A term is one condition of a search. Every token is a term:

    token  = ["-"] (phrase | name operator value | word)
    phrase = ["!"] '"' interior '"'
    name   = one or more ASCII letters and underscores

The operator is the longest run of operator characters behind the name; if nothing follows the run,
its last character is the value. A token that fits neither of the first two forms is a word.

* `Term.ofToken` reads a token.
* `Term.text` writes a term as a token.
-/

namespace CardCatalog

/-- One condition of a search. Without a field it is about the text of the card as a whole. -/
structure Term where
  field : Option Field
  operator : Operator
  value : Text
  /-- The condition is to fail. -/
  negated : Bool
  deriving DecidableEq, Repr

namespace Term

/-- A term without a field. -/
def free (operator : Operator) (value : Text) (negated : Bool) : Term :=
  ⟨none, operator, value, negated⟩

/-- The term has no field. -/
def isFree (term : Term) : Bool := term.field.isNone

/-! ## Reading -/

/-- The character may stand in the name of a field. -/
def isNameChar (c : Char) : Bool := c.isAlpha || c == '_'

/-- What stands between an opening quote, already read, and a quote at the end. The opening quote
also serves as the closing one, so that a quote alone is the empty phrase. -/
def untilLastQuote? (rest : Text) : Option Text :=
  if rest = [] then some []
  else if rest.getLast? = some '"' then some rest.dropLast
  else none

/-- The interior of a quoted phrase. -/
def interior? : Text → Option Text
  | '!' :: '"' :: rest => untilLastQuote? rest
  | '"' :: rest => untilLastQuote? rest
  | _ => none

/-- Name, operator characters and value of a term with a field. The operator may turn out to be
none. -/
def parts? (body : Text) : Option (Text × Text × Text) :=
  let name := body.takeWhile isNameChar
  let rest := body.dropWhile isNameChar
  let symbol := rest.takeWhile Operator.isSymbolChar
  let value := rest.dropWhile Operator.isSymbolChar
  if name = [] || symbol = [] then none
  else if value ≠ [] then some (name, symbol, value)
  else
    match symbol.getLast? with
    | some last => if symbol.length < 2 then none else some (name, symbol.dropLast, [last])
    | none => none

/-- The term on a field with a given operator and value. The values of flags and keywords are in
small letters, and no other operator is kept for them than containment. -/
def onField (field : Field) (operator : Operator) (value : Text) (negated : Bool) : Term :=
  match field with
  | .is => ⟨some .is, .contains, Text.lower value, negated⟩
  | _ => ⟨some field, operator, value, negated⟩

/-- The term with a field that the text spells. -/
def fielded? (body : Text) (negated : Bool) : Option Term := do
  let (name, symbol, value) ← parts? body
  let operator ← Operator.ofSymbol? symbol
  return onField (Field.ofName name) operator value negated

/-- The term that a token without its leading dash spells. -/
def ofBody (body : Text) (negated : Bool) : Term :=
  match interior? body with
  | some phrase => free .exact phrase negated
  | none => (fielded? body negated).getD (free .contains body negated)

/-- The term that a token spells; a leading dash negates. -/
def ofToken : Text → Term
  | '-' :: body => ofBody body true
  | body => ofBody body false

/-! ## Writing -/

/-- The term without its dash, as a token spells it. -/
def body (term : Term) : Text :=
  match term.field, term.operator with
  | none, .exact => '"' :: term.value ++ ['"']
  | none, _ => term.value
  | some field, operator => field.canonicalName ++ operator.symbol ++ term.value

/-- The term as a token. -/
def text (term : Term) : Text := if term.negated then '-' :: term.body else term.body

end Term

end CardCatalog
