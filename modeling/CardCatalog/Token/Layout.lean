import CardCatalog.Json
import CardCatalog.Table
import CardCatalog.Token

/-!
# Tokens shown

Tokens as JSON and as a table with a row for each token.
-/

namespace CardCatalog.Token

/-- A token as JSON. -/
def toJson (token : Token) : Json :=
  .object [("text", .text token.text), ("position", .int token.offset)]

/-- Tokens as JSON. -/
def listJson (tokens : List Token) : Json := .object [("tokens", .list (tokens.map toJson))]

/-- The row of a token. -/
def tokenRow (token : Token) : Text :=
  Table.row [(6, Text.ofNat token.offset)] (Table.truncate Table.cellWidth token.text)

/-- Tokens as a table. -/
def table (colors : Bool) (tokens : List Token) : Text :=
  if tokens.isEmpty then "No tokens.\n"
  else
    Table.header colors (Table.row [(6, "Offset")] "Token") ++
      Text.ofLines (tokens.map tokenRow)

end CardCatalog.Token
