import CardCatalog.Field
import CardCatalog.Text.Distance

/-!
# Suggestions

For an unknown field name, the known name or alias that was most likely meant.
-/

namespace CardCatalog.Field

/-- Every name that can be suggested: names of fields, then of integer fields, then aliases. -/
def candidates : List Text := knownNames ++ Numeric.all.map Numeric.name ++ aliases.map (·.1)

/-- A name at a greater distance is not suggested. -/
def farthest : Nat := 3

/-- The first of the members at the least distance to `name`, with that distance. -/
def nearest? (name : Text) : List Text → Option (Text × Nat)
  | [] => none
  | candidate :: rest =>
    let distance := Text.distance name candidate
    match nearest? name rest with
    | none => some (candidate, distance)
    | some best => if distance ≤ best.2 then some (candidate, distance) else some best

/-- The nearest candidate, unless the name is itself one or all are too far. -/
def suggest? (written : Text) : Option Text :=
  match nearest? (Text.lower written) candidates with
  | some (candidate, distance) =>
    if 0 < distance && distance ≤ farthest then some candidate else none
  | none => none

end CardCatalog.Field
