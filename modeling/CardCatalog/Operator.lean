import CardCatalog.Text

/-!
# Comparison operators

How a term compares a field with its value. Two operators have a second spelling, with the equals
sign first; printing uses the other one.
-/

namespace CardCatalog

/-- How a term compares a field with its value. -/
inductive Operator where
  /-- The value occurs in the field; equality for integers. -/
  | contains
  /-- The field is the value; also what a quoted phrase asks for. -/
  | exact
  | greater
  | greaterOrEqual
  | less
  | lessOrEqual
  deriving DecidableEq, Repr

namespace Operator

/-- The spelling that is printed. -/
def symbol : Operator → Text
  | contains => ":"
  | exact => "="
  | greater => ">"
  | greaterOrEqual => ">="
  | less => "<"
  | lessOrEqual => "<="

/-- Every spelling that is read. -/
def spellings : List (Text × Operator) :=
  [(":", contains), ("=", exact), (">", greater), (">=", greaterOrEqual), ("=>", greaterOrEqual),
   ("<", less), ("<=", lessOrEqual), ("=<", lessOrEqual)]

/-- The operator with this spelling. -/
def ofSymbol? (symbol : Text) : Option Operator := spellings.lookup symbol

/-- The character may stand in an operator. -/
def isSymbolChar (c : Char) : Bool := c == ':' || c == '=' || c == '>' || c == '<'

end Operator

end CardCatalog
