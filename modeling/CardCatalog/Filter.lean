import CardCatalog.Field
import CardCatalog.Filter.Range

/-!
# Filters

A filter is what a store of cards can execute: a text to look for, and a constraint under some of
the keys. A card has to meet all of it; an empty text and a missing constraint ask for nothing.
-/

namespace CardCatalog

/-- The dimensions along which a filter can restrict. -/
inductive Key where
  /-- Keywords that must all be there. -/
  | keywords
  /-- Keywords of which one must be there. -/
  | keywordsOr
  | unique
  | decks
  | types
  | clans
  | sets
  | rarities
  | legality
  | numeric (which : Numeric)
  deriving DecidableEq, Repr

namespace Key

/-- All keys in the order in which a filter lists them. -/
def all : List Key :=
  [.keywords, .keywordsOr, .unique, .decks, .types, .clans, .sets, .rarities, .legality]
    ++ Numeric.all.map .numeric

/-- The name of the key in the store of cards. -/
def name : Key → Text
  | .keywords => "keywords"
  | .keywordsOr => "keywords_or"
  | .unique => "is_unique"
  | .decks => "decks"
  | .types => "types"
  | .clans => "clans"
  | .sets => "sets"
  | .rarities => "rarities"
  | .legality => "legality"
  | .numeric which => which.name

/-- The key with this name. -/
def ofName? (name : Text) : Option Key := all.find? (·.name = name)

end Key

/-- A restriction under one key. -/
inductive Constraint where
  /-- Values or keywords. -/
  | list (values : List Text)
  | range (range : Range)
  | flag (value : Bool)
  /-- One of the statuses in the format. -/
  | legality (format : Text) (statuses : List Text)
  deriving DecidableEq, Repr

/-- A text to look for and a constraint for some of the keys. -/
@[ext] structure Filter where
  text : Text
  constraint : Key → Option Constraint

namespace Filter

/-- The constraints with their keys, in the order of the keys. -/
def entries (filter : Filter) : List (Key × Constraint) :=
  Key.all.filterMap fun key => (filter.constraint key).map (key, ·)

/-- The filter restricts nothing. -/
def isEmpty (filter : Filter) : Bool := filter.text.isEmpty && filter.entries.isEmpty

/-- The values of a list constraint. -/
def list? (filter : Filter) (key : Key) : Option (List Text) :=
  match filter.constraint key with
  | some (.list values) => some values
  | _ => none

/-- The range of an integer field. -/
def range? (filter : Filter) (which : Numeric) : Option Range :=
  match filter.constraint (.numeric which) with
  | some (.range range) => some range
  | _ => none

/-- The value of a flag. -/
def flag? (filter : Filter) (key : Key) : Option Bool :=
  match filter.constraint key with
  | some (.flag value) => some value
  | _ => none

end Filter

end CardCatalog
