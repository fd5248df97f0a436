import CardCatalog.Text

/-!
# TOML values

What a TOML document says: tables of named values. Of numbers with a fraction and of dates only
the spelling is kept, as nothing is computed with them.

Whether a table may still be added to depends on how it came about, so tables remember it.
-/

namespace CardCatalog.Toml

/-- How a table came about. -/
inductive Origin where
  /-- By a header of its own, or as the document itself. -/
  | header
  /-- On the way to a table with a header. -/
  | onTheWay
  /-- By dotted keys. -/
  | dotted
  /-- Between braces. -/
  | inline
  deriving DecidableEq, Repr

/-- A value of a TOML document. -/
inductive Value where
  | text (t : Text)
  | int (n : Int)
  | bool (b : Bool)
  | float (spelling : Text)
  | time (spelling : Text)
  | list (items : List Value)
  | table (origin : Origin) (entries : List (Text × Value))
  /-- The tables of a repeated header, the latest one first. -/
  | tables (items : List (List (Text × Value)))

/-- Named values in the order in which they are first mentioned. -/
abbrev Entries := List (Text × Value)

/-- Puts a value in place of the one under a key. -/
def Entries.replace (key : Text) (value : Value) (entries : Entries) : Entries :=
  entries.map fun entry => if entry.1 = key then (key, value) else entry

end CardCatalog.Toml
