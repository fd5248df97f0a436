import CardCatalog.Diagnostic
import CardCatalog.Json
import CardCatalog.Style

/-!
# Diagnostics shown

Diagnostics as JSON beside the expression, and as a list of warnings.
-/

namespace CardCatalog.Diagnostic

/-- The name of the cause. -/
def kind : Diagnostic → Text
  | unknownField .. => "unknown_field"
  | ignoredNegation .. => "ignored_negation"
  | nonIntegerValue .. => "non_integer_value"
  | extraFormat .. => "extra_format"
  | emptyValue .. => "empty_value"

/-- What the diagnostic tells beside its cause. -/
def details : Diagnostic → List (Text × Json)
  | unknownField field suggestion => [("field", .text field), ("suggestion", .ofText? suggestion)]
  | ignoredNegation term => [("term", .text term)]
  | nonIntegerValue field value => [("field", .text field), ("value", .text value)]
  | extraFormat value => [("value", .text value)]
  | emptyValue term => [("term", .text term)]

/-- A diagnostic as JSON. -/
def toJson (diagnostic : Diagnostic) : Json :=
  .object (("kind", .text diagnostic.kind) :: diagnostic.details)

/-- The diagnostics of an expression as JSON. -/
def listJson (expression : Text) (diagnostics : List Diagnostic) : Json :=
  .object
    [("expression", .text expression), ("diagnostics", .list (diagnostics.map toJson))]

/-- The diagnostics as warnings. -/
def table (colors : Bool) (diagnostics : List Diagnostic) : Text :=
  if diagnostics.isEmpty then "No ignored terms.\n"
  else
    Text.ofLines (diagnostics.map fun diagnostic =>
      Style.yellow.paint colors "warning" ++ ": " ++ diagnostic.message)

end CardCatalog.Diagnostic
