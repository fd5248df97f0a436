import CardCatalog.Integer
import CardCatalog.Operator
import CardCatalog.Text.Blank
import CardCatalog.Text.Case

/-!
# Ranges

An integer field is restricted to a range, both ends included, either of which may be missing.
Each comparison sets one end or both; where an end is set again, the bound policy decides.

* `Range.ofComparison` is the range of one comparison.
* `Range.merge` adds the ends of a later comparison.
* `BoundPolicy.ofName` reads the name of a policy.
-/

namespace CardCatalog

/-- What becomes of an end of a range that is set again. -/
inductive BoundPolicy where
  /-- The later end replaces the earlier one. -/
  | last
  /-- The end that leaves the smaller range stays. -/
  | tightest
  deriving DecidableEq, Repr

namespace BoundPolicy

/-- The name under which the policy is stored and shown. -/
def name : BoundPolicy → Text
  | last => "last"
  | tightest => "tightest"

/-- Every name that is read, in small letters. -/
def names : List (Text × BoundPolicy) :=
  [("last", last), ("last-wins", last), ("last_wins", last), ("tightest", tightest)]

/-- A name that no policy has. -/
structure Unknown where
  written : Text
  deriving DecidableEq, Repr

/-- What a user is told about an unknown name. -/
def Unknown.message (unknown : Unknown) : Text :=
  "unknown bound policy: " ++ unknown.written ++ " (expected \"last\" or \"tightest\")"

/-- The policy with this name; blanks around it and case do not matter. -/
def ofName (written : Text) : Except Unknown BoundPolicy :=
  match names.lookup (Text.lower (Text.trim written)) with
  | some policy => .ok policy
  | none => .error ⟨written⟩

/-- The end that holds after `new`, where `tighter` picks the tighter of two. -/
def update (policy : BoundPolicy) (tighter : Int → Int → Int) (current new : Option Int) :
    Option Int :=
  match policy, current, new with
  | _, current, none => current
  | tightest, some c, some n => some (tighter c n)
  | _, _, some n => some n

end BoundPolicy

/-- A range of integers with its ends, either of which may be missing. -/
structure Range where
  min : Option Int
  max : Option Int
  deriving DecidableEq, Repr

namespace Range

/-- No restriction. -/
def unbounded : Range := ⟨none, none⟩

/-- The range has an end. -/
def isBounded (range : Range) : Bool := range.min.isSome || range.max.isSome

/-- The integers that compare with `n` as the operator says. Strict comparisons move the end by
one, but not out of the 64 bits. -/
def ofComparison (operator : Operator) (n : Int) : Range :=
  match operator with
  | .contains | .exact => ⟨some n, some n⟩
  | .greater => ⟨some (Integer.clamp (n + 1)), none⟩
  | .greaterOrEqual => ⟨some n, none⟩
  | .less => ⟨none, some (Integer.clamp (n - 1))⟩
  | .lessOrEqual => ⟨none, some n⟩

/-- The range after a further comparison. -/
def merge (policy : BoundPolicy) (range new : Range) : Range :=
  ⟨policy.update Max.max range.min new.min, policy.update Min.min range.max new.max⟩

end Range

end CardCatalog
