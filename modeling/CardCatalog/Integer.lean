import CardCatalog.Text

/-!
# Integers

Values of integer fields fit into 64 bits with a sign. A written integer is read from left to
right; one that leaves the range stops there, at the end of the range, and what follows the digit
at which it left is not looked at.
-/

namespace CardCatalog.Integer

/-- The least integer that a card can hold. -/
def lowest : Int := -9223372036854775808

/-- The greatest integer that a card can hold. -/
def highest : Int := 9223372036854775807

/-- The integer of the range nearest to `n`. -/
def clamp (n : Int) : Int := max lowest (min highest n)

/-- The value of a decimal digit. -/
def digit? (c : Char) : Option Nat := if c.isDigit then some (c.toNat - 48) else none

/-- Reads digits behind `value`, away from zero in the direction of `sign`. -/
def readDigits? (sign value : Int) : Text → Option Int
  | [] => some value
  | c :: rest =>
    match digit? c with
    | none => none
    | some d =>
      let next := 10 * value + sign * d
      if clamp next = next then readDigits? sign next rest else some (clamp next)

/-- Reads at least one digit. -/
def readUnsigned? (sign : Int) (t : Text) : Option Int :=
  if t = [] then none else readDigits? sign 0 t

/-- Reads an integer with an optional sign; none if the text is no integer. -/
def read? : Text → Option Int
  | '+' :: digits => readUnsigned? 1 digits
  | '-' :: digits => readUnsigned? (-1) digits
  | digits => readUnsigned? 1 digits

end CardCatalog.Integer
