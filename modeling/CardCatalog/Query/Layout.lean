import CardCatalog.Json
import CardCatalog.Query
import CardCatalog.Table

/-!
# Queries shown

A query as JSON and as a table with a numbered row for each term.
-/

namespace CardCatalog

/-- A term as JSON. -/
def Term.toJson (term : Term) : Json :=
  .object
    [("field", .ofText? (term.field.map Field.canonicalName)),
     ("operator", .text term.operator.symbol),
     ("value", .text term.value),
     ("negated", .bool term.negated)]

namespace Query

/-- A query as JSON. -/
def toJson (query : Query) : Json :=
  .object
    [("combinator", .text query.combinator.word), ("terms", .list (query.terms.map Term.toJson))]

/-- A row of the table of terms, with the widths of its columns. -/
def tableRow (number negation field operator value : Text) : Text :=
  Table.row [(3, number), (3, negation), (16, field), (3, operator)] value

/-- The row of a term. -/
def termRow (number : Nat) (term : Term) : Text :=
  tableRow (Text.ofNat number) (if term.negated then ['-'] else [])
    ((term.field.map Field.canonicalName).getD "(text)".toList) term.operator.symbol
    (Table.truncate Table.cellWidth term.value)

/-- The query as a table. -/
def table (colors : Bool) (query : Query) : Text :=
  if query.terms.isEmpty then "No terms.\n"
  else
    "Combinator: " ++ query.combinator.word ++ "\n\n" ++
      Table.header colors (tableRow "#" "Neg" "Field" "Op" "Value") ++
      Text.ofLines (query.terms.mapIdx fun i term => termRow (i + 1) term)

end Query

end CardCatalog
