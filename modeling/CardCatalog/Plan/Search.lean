import CardCatalog.Diagnostic.Layout
import CardCatalog.Field.Layout
import CardCatalog.Filter.Layout
import CardCatalog.Guide
import CardCatalog.Plan
import CardCatalog.Query.Layout
import CardCatalog.Text.Quoted
import CardCatalog.Token.Layout

/-!
# Searches

What the commands on search expressions report. An expression is given in words and is their row
with a space between two of them.
-/

namespace CardCatalog.Report

/-- The expression that the words make. -/
def expression (words : List Text) : Text := List.intercalate [' '] words

/-- The filter of an expression. -/
def compile (tightest : Bool) (words : List Text) (manner : Manner) : Report :=
  let bounds := if tightest then .tightest else manner.bounds
  let query := Query.ofText (expression words)
  let filter := Filter.compile bounds query
  let opening : Text :=
    "Compiling ".toList ++ Text.quoted (expression words) ++ " (" ++ bounds.name ++ " bounds)"
  let notes := (Diagnostic.ofQuery query).map fun diagnostic =>
    "note: ".toList ++ diagnostic.message
  { out := manner.answer filter.toJson (filter.table manner.colors)
    err := manner.notes (opening :: notes) }

/-- The terms of an expression. -/
def parse (words : List Text) (manner : Manner) : Report :=
  let query := Query.ofText (expression words)
  { out := manner.answer query.toJson (query.table manner.colors)
    err := manner.notes ["Parsed ".toList ++ Text.ofNat query.terms.length ++ " term(s)"] }

/-- The tokens of an expression. -/
def tokens (words : List Text) (manner : Manner) : Report :=
  let tokens := Token.scan (expression words)
  { out := manner.answer (Token.listJson tokens) (Token.table manner.colors tokens)
    err := [] }

/-- The diagnostics of an expression. -/
def check (words : List Text) (manner : Manner) : Report :=
  let diagnostics := Diagnostic.ofQuery (Query.ofText (expression words))
  { out := manner.answer (Diagnostic.listJson (expression words) diagnostics)
      (Diagnostic.table manner.colors diagnostics)
    err := manner.notes [Text.ofNat diagnostics.length ++ " diagnostic(s)"] }

/-- The fields. -/
def fields (manner : Manner) : Report :=
  { out := manner.answer Field.listJson (Field.table manner.colors), err := [] }

/-- The guide to expressions. -/
def guide (manner : Manner) : Report :=
  { out := manner.answer (.object [("syntax", .text CardCatalog.guide)]) CardCatalog.guide
    err := [] }

end CardCatalog.Report
