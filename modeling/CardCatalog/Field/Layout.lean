import CardCatalog.Field
import CardCatalog.Json
import CardCatalog.Table

/-!
# Fields shown

The aliases and the integer fields, as JSON and as a table.
-/

namespace CardCatalog.Field

/-- Aliases and integer fields as JSON. -/
def listJson : Json :=
  .object
    [("aliases",
      .list (aliases.map fun entry => .object [("alias", .text entry.1), ("field", .text entry.2)])),
     ("numeric_fields", .ofTexts (Numeric.all.map Numeric.name))]

/-- A row of the table of aliases. -/
def aliasRow (entry : Text × Text) : Text := Table.row [(16, entry.1)] entry.2

/-- Aliases and integer fields as a table. -/
def table (colors : Bool) : Text :=
  Table.header colors (aliasRow ("Alias", "Field")) ++ Text.ofLines (aliases.map aliasRow) ++
    '\n' :: Table.header colors "Numeric fields" ++
    Text.ofLines (Numeric.all.map fun which => "  " ++ which.name)

end CardCatalog.Field
