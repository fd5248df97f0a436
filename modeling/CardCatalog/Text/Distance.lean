import CardCatalog.Text

/-!
# Edit distance

The least number of characters to insert, delete or replace that turns one text into another. It
is computed for one text against all ends of the other at once, the ends from the longest to the
empty one, so that each row comes from the row before it.
-/

namespace CardCatalog.Text

/-- The row for `c :: a` against the ends of `b`, from the row for `a`. -/
def nextRow (c : Char) : Text → List Nat → List Nat
  | d :: b, skip :: row =>
    let below := nextRow c b row
    let keep := row.headD 0
    (if c = d then keep else 1 + min skip (min keep (below.headD 0))) :: below
  | _, row => row.map (· + 1)

/-- The distances of the first text to the ends of the second. -/
def distanceRow : Text → Text → List Nat
  | [], b => (List.range (b.length + 1)).reverse
  | c :: a, b => nextRow c b (distanceRow a b)

/-- The edit distance of two texts. -/
def distance (a b : Text) : Nat := (distanceRow a b).headD 0

end CardCatalog.Text
