import CardCatalog.Filter
import CardCatalog.Json
import CardCatalog.Table

/-!
# Filters shown

A filter as JSON and as a table with a line for the text and a row for each constraint.
-/

namespace CardCatalog

/-- A range in words or signs. -/
def Range.shown (range : Range) : Text :=
  match range.min, range.max with
  | some low, some high =>
    if low = high then "= " ++ Text.ofInt low else Text.ofInt low ++ "..=" ++ Text.ofInt high
  | some low, none => ">= " ++ Text.ofInt low
  | none, some high => "<= " ++ Text.ofInt high
  | none, none => "any"

namespace Constraint

/-- A constraint in one cell. -/
def shown : Constraint → Text
  | .list values => List.intercalate ", ".toList values
  | .range ends => ends.shown
  | .flag true => "yes"
  | .flag false => "no"
  | .legality format statuses => List.intercalate ['/'] statuses ++ " in " ++ format

/-- A constraint as JSON. -/
def toJson : Constraint → Json
  | .list values => .ofTexts values
  | .range ends => .object [("min", .ofInt? ends.min), ("max", .ofInt? ends.max)]
  | .flag value => .bool value
  | .legality format statuses =>
    .object [("format", .text format), ("statuses", .ofTexts statuses)]

end Constraint

namespace Filter

/-- A filter as JSON. -/
def toJson (filter : Filter) : Json :=
  .object
    [("text", .text filter.text),
     ("constraints", .object (filter.entries.map fun entry => (entry.1.name, entry.2.toJson)))]

/-- A row of the table of constraints. -/
def constraintRow (entry : Key × Constraint) : Text :=
  Table.row [(16, entry.1.name)] entry.2.shown

/-- The filter as a table. -/
def table (colors : Bool) (filter : Filter) : Text :=
  if filter.isEmpty then "No restrictions (matches every card).\n"
  else
    let text : Text := if filter.text = [] then "(none)" else Style.bold.paint colors filter.text
    "Text: " ++ text ++ ['\n'] ++
      if filter.entries.isEmpty then []
      else
        '\n' :: Table.header colors (Table.row [(16, "Key")] "Value") ++
          Text.ofLines (filter.entries.map constraintRow)

end Filter

end CardCatalog
