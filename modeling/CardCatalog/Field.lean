import CardCatalog.Text.Case

/-!
# Fields

A field is an attribute of a card that a term can ask about. Nine of them have rules of their own,
nine more hold integers, and every other name is kept as an unknown field.

* `Field.normalize` brings a written name into its canonical form: small letters, then one step
  through the table of aliases.
* `Field.ofName` finds the field of a written name, `Field.canonicalName` gives its one name.
* `Field.knownNames` lists the names that can be suggested beside integer fields and aliases.
-/

namespace CardCatalog

/-- The attributes of a card that hold an integer. -/
inductive Numeric where
  | force
  | chi
  | honorRequirement
  | goldCost
  | personalHonor
  | goldProduction
  | provinceStrength
  | startingHonor
  | focus
  deriving DecidableEq, Repr

namespace Numeric

/-- The integer attributes in the order in which they are listed. -/
def all : List Numeric :=
  [force, chi, honorRequirement, goldCost, personalHonor, goldProduction, provinceStrength,
    startingHonor, focus]

/-- The canonical name. -/
def name : Numeric → Text
  | force => "force"
  | chi => "chi"
  | honorRequirement => "honor_requirement"
  | goldCost => "gold_cost"
  | personalHonor => "personal_honor"
  | goldProduction => "gold_production"
  | provinceStrength => "province_strength"
  | startingHonor => "starting_honor"
  | focus => "focus"

/-- The attribute with this canonical name. -/
def ofCanonical? (name : Text) : Option Numeric := all.find? (·.name = name)

end Numeric

/-- An attribute that a term asks about. -/
inductive Field where
  /-- Rules text. -/
  | text
  /-- Name of the card. -/
  | name
  /-- Flags and keywords. -/
  | is
  /-- Fate or dynasty deck. -/
  | deck
  /-- Type of the card. -/
  | type
  | clan
  /-- Printing set. -/
  | set
  | rarity
  /-- Legality in a format. -/
  | format
  /-- One of the integers. -/
  | numeric (which : Numeric)
  /-- A name without a rule, in small letters. -/
  | other (name : Text)
  deriving DecidableEq, Repr

namespace Field

/-- The name under which the field is listed, shown and printed. -/
def canonicalName : Field → Text
  | .text => "text"
  | .name => "name"
  | .is => "is"
  | .deck => "deck"
  | .type => "type"
  | .clan => "clan"
  | .set => "set"
  | .rarity => "rarity"
  | .format => "format"
  | .numeric which => which.name
  | .other written => written

/-- Short names, each with the canonical name for which it stands. -/
def aliases : List (Text × Text) :=
  [("o", "text"), ("oracle", "text"), ("t", "type"), ("c", "clan"), ("s", "set"), ("f", "force"),
   ("format", "format"), ("r", "rarity"), ("side", "deck"), ("gold", "gold_cost"),
   ("ph", "personal_honor"), ("province", "province_strength"),
   ("startinghonor", "starting_honor"), ("has", "is")]

/-- The written name in small letters, an alias replaced by what it stands for. -/
def normalize (written : Text) : Text :=
  let small := Text.lower written
  (aliases.lookup small).getD small

/-- The field with this canonical name. -/
def ofCanonical (name : Text) : Field :=
  if name = "text" then .text
  else if name = "name" then .name
  else if name = "is" then .is
  else if name = "deck" then .deck
  else if name = "type" then .type
  else if name = "clan" then .clan
  else if name = "set" then .set
  else if name = "rarity" then .rarity
  else if name = "format" then .format
  else
    match Numeric.ofCanonical? name with
    | some which => .numeric which
    | none => .other name

/-- The field that a written name stands for. -/
def ofName (written : Text) : Field := ofCanonical (normalize written)

/-- The names of the fields with a rule of their own, integer fields aside, as they are offered to
the user. -/
def knownNames : List Text :=
  ["text", "name", "is", "deck", "type", "clan", "set", "rarity", "format"]

/-- The field holds an integer. -/
def isNumeric : Field → Bool
  | .numeric _ => true
  | _ => false

end Field

end CardCatalog
