import CardCatalog.Text

/-!
# The guide

What a user reads about the language of search expressions.
-/

namespace CardCatalog

/-- The guide to search expressions. -/
def guide : Text := String.toList r#"SEARCH SYNTAX
=============

Plain words
-----------
  Doji                     name, id or rules text contains "Doji"

Field search (field:value)
--------------------------
  name:Hoturi              name contains "Hoturi"
  text:battle              rules text contains "battle"
  type:personality         card type
  clan:Crane               clan
  deck:fate                FATE or DYNASTY deck
  set:"Imperial Edition"   printing set
  rarity:rare              rarity
  format:"Ivory Edition"   legal in a format (first format wins)

Numbers
-------
  force>3   force>=3   chi<2   chi<=2   gold:5   focus=2
  Also accepted: => for >=, =< for <=.
  Numeric fields: force, chi, focus, gold_cost (gold), personal_honor (ph),
  province_strength (province), starting_honor (startinghonor),
  honor_requirement, gold_production.

Keywords and flags (is: / has:)
-------------------------------
  is:unique                unique cards only (-is:unique: non-unique only)
  is:cavalry               cards with the cavalry keyword
  is:shugenja is:shadowlands   cards with BOTH keywords
  is:shugenja&shadowlands      same as above
  is:cavalry|experienced       cards with EITHER keyword

Exact phrases
-------------
  "Doji Hoturi"            exact phrase, even if it contains ':'
  !"Doji Hoturi"           same

Negation
--------
  -is:unique               non-unique cards
  Other negated terms (-type:event, -clan:Crab) are accepted but do not
  restrict the results.

Combining terms
---------------
  clan:Crane type:personality force>3     all terms must match (AND)
  clan:Crane AND type:personality         same; AND and NOT are ignored
  clan:Crane OR clan:Lion                 any term may match
  A single OR anywhere makes the whole search an OR; there is no grouping.

Aliases
-------
  t=type  c=clan  s=set  r=rarity  f=force  o/oracle=text  side=deck
  gold=gold_cost  ph=personal_honor  province=province_strength
  startinghonor=starting_honor  has=is

Examples
--------
  name:Doji clan:Crane force>3     Crane Doji cards with Force above 3
  t:personality f>=4 is:unique     unique personalities with Force 4+
  c:Lion OR c:Unicorn              Lion or Unicorn cards
  gold<=2 is:cavalry               cavalry cards costing 2 or less
  "Experienced 2" clan:Dragon      Dragon cards with the exact phrase
"#

end CardCatalog
