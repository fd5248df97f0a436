import CardCatalog.Style

/-!
# Tables

Rows of cells in columns of fixed width, under a header line. The last cell of a row is not padded,
and long cells are cut.
-/

namespace CardCatalog.Table

/-- A text of more than `max` characters is cut, and three dots show it. -/
def truncate (max : Nat) (t : Text) : Text :=
  if max < t.length then t.take (max - 3) ++ "..." else t

/-- A cell of free text has at most this many characters. -/
def cellWidth : Nat := 40

/-- Cells padded to the width of their columns, then the last cell. -/
def row (cells : List (Nat × Text)) (last : Text) : Text :=
  cells.flatMap (fun cell => Text.padRight cell.1 cell.2 ++ [' ']) ++ last

/-- The header line of a table. -/
def header (colors : Bool) (line : Text) : Text := Style.dimmed.paint colors line ++ ['\n']

end CardCatalog.Table
