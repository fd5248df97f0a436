import CardCatalog.Filter
import CardCatalog.Query

/-!
# From query to filter

The terms are filed by fields, in the order in which the fields come up (`Filter.groups`). Then each
group in its turn adds to a draft of the filter: fragments of text, or constraints under the keys of
its field (`Draft.add`). Negated terms restrict nothing, with the one exception that a negated
`is:unique` asks for cards that are not unique.

The combinator of the query does not enter: a filter has none.
-/

namespace CardCatalog

namespace Term

/-- The field under which the term is compiled; a term without a field counts as one on the rules
text. -/
def target (term : Term) : Field := term.field.getD .text

/-- A keyword term's value, in small letters. -/
def keyword (term : Term) : Text := Text.lower term.value

/-- The word that is no keyword but sets a flag. -/
def uniqueWord : Text := "unique"

/-- The pieces of a keyword list without blanks around them, empty ones left out. -/
def keywordList (separator : Char) (value : Text) : List Text :=
  ((Text.pieces (· == separator) value).map Text.trim).filter (· ≠ [])

/-- The range that a term on an integer field sets. -/
def range? (term : Term) : Option Range :=
  if term.negated then none
  else (Integer.read? term.value).map (Range.ofComparison term.operator)

end Term

namespace Filter

/-! ## Groups -/

/-- A term is added to the group of its field, or behind all groups as a new one. -/
def addTo (term : Term) : List (Field × List Term) → List (Field × List Term)
  | [] => [(term.target, [term])]
  | (field, members) :: rest =>
    if field = term.target then (field, members ++ [term]) :: rest
    else (field, members) :: addTo term rest

/-- The terms by fields, in the order in which the fields come up. -/
def groups (terms : List Term) : List (Field × List Term) :=
  terms.foldl (fun found term => addTo term found) []

/-- The values of the terms that are not negated. -/
def plainValues (members : List Term) : List Text :=
  (members.filter (!·.negated)).map (·.value)

/-- A list constraint, unless there is nothing to list. -/
def ofValues (values : List Text) : Option Constraint :=
  if values = [] then none else some (.list values)

/-- The range that the terms on an integer field leave. -/
def rangeOf (policy : BoundPolicy) (members : List Term) : Range :=
  (members.filterMap Term.range?).foldl (Range.merge policy) Range.unbounded

/-- What the terms on flags and keywords have asked for so far. -/
structure Keywords where
  /-- Keywords that a card must have. -/
  all : List Text
  /-- Keywords of which a card must have one. -/
  any : List Text
  /-- Whether a card must be unique. -/
  unique : Option Bool

namespace Keywords

/-- Nothing asked for. -/
def empty : Keywords := ⟨[], [], none⟩

/-- One more term. A list with `|` asks for one of its keywords, a list with `&` for all of them; of
several terms with the word for the flag the last one decides. -/
def add (found : Keywords) (term : Term) : Keywords :=
  if term.keyword.contains '|' then
    if term.negated then found
    else { found with any := found.any ++ Term.keywordList '|' term.keyword }
  else if term.keyword.contains '&' then
    if term.negated then found
    else { found with all := found.all ++ Term.keywordList '&' term.keyword }
  else if term.keyword = Term.uniqueWord then { found with unique := some (!term.negated) }
  else if term.negated then found
  else { found with all := found.all ++ [term.keyword] }

end Keywords

/-! ## Group by group -/

/-- A filter that is being put together. -/
structure Draft where
  /-- Fragments of text to look for. -/
  fragments : List Text
  constraint : Key → Option Constraint

namespace Draft

/-- Nothing to look for yet. -/
def empty : Draft := ⟨[], fun _ => none⟩

/-- The constraint goes under the key, in place of what was there. -/
def put (draft : Draft) (key : Key) (new : Option Constraint) : Draft :=
  match new with
  | none => draft
  | some constraint =>
    { draft with
      constraint := fun other => if other = key then some constraint else draft.constraint other }

/-- What the terms on one field add. -/
def add (policy : BoundPolicy) (draft : Draft) (group : Field × List Term) : Draft :=
  let members := group.2
  let values := plainValues members
  match group.1 with
  | .text | .name => { draft with fragments := draft.fragments ++ values.filter (· ≠ []) }
  | .is =>
    let found := members.foldl Keywords.add Keywords.empty
    let draft := draft.put .keywords (ofValues found.all)
    let draft := draft.put .keywordsOr (ofValues found.any)
    draft.put .unique (found.unique.map .flag)
  | .deck => draft.put .decks (ofValues (values.map Text.upper))
  | .type => draft.put .types (ofValues (values.map Text.lower))
  | .clan => draft.put .clans (ofValues values)
  | .set => draft.put .sets (ofValues values)
  | .rarity => draft.put .rarities (ofValues values)
  | .format =>
    draft.put .legality (values.head?.map fun format => .legality format ["legal"])
  | .numeric which =>
    let range := rangeOf policy members
    draft.put (.numeric which) (if range.isBounded then some (.range range) else none)
  | .other _ => draft

end Draft

/-- The filter that a query asks for. -/
def compile (policy : BoundPolicy) (query : Query) : Filter :=
  let draft := (groups query.terms).foldl (Draft.add policy) Draft.empty
  ⟨List.intercalate [' '] draft.fragments, draft.constraint⟩

end Filter

end CardCatalog
