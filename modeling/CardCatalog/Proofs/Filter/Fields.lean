import CardCatalog.Filter.Compile
import CardCatalog.Proofs.Query.Distinct

/-!
# What the terms on one field contribute

What the terms ask for under one key is said here with no regard to the order in which the groups of
terms are looked at (`constraintOf`), and hangs on the terms on one field alone
(`constraintOf_congr`). Only the fragments of text also hang on the order of fields, and that in one
bit: whether names come before rules text (`fragments_eq`). That a filter is made of these two is
shown where its groups are put together.

The rest of the module is about one term (`onField_singleton` and what follows), and about filters
that restrict nothing (`isEmpty_iff`).
-/

namespace CardCatalog

namespace Term

/-- The keywords of which a card must have one: those listed with `|`. -/
def anyKeywords (term : Term) : List Text :=
  if !term.negated && term.keyword.contains '|' then keywordList '|' term.keyword else []

/-- The keywords that a card must have: those listed with `&`, or the value as it is, unless it
is the word for the flag. -/
def allKeywords (term : Term) : List Text :=
  if term.negated || term.keyword.contains '|' then []
  else if term.keyword.contains '&' then keywordList '&' term.keyword
  else if term.keyword = uniqueWord then []
  else [term.keyword]

end Term

namespace Filter

/-- The terms on one field. -/
def onField (field : Field) (terms : List Term) : List Term :=
  terms.filter (·.target = field)

/-- The values of the terms on one field that are not negated. -/
def values (field : Field) (terms : List Term) : List Text :=
  plainValues (onField field terms)

/-- The fields whose terms look for a text. -/
def isTextual (field : Field) : Bool := field = .text || field = .name

/-- The fragments of text to look for. Those of one field stay together, and the field that comes
first in the query comes first. -/
def fragments (terms : List Term) : List Text :=
  ((terms.map (·.target)).filter isTextual).eraseDups.flatMap fun field =>
    (values field terms).filter (· ≠ [])

/-- Whether a card must be unique; of several terms the last one decides. -/
def uniqueFlag? (terms : List Term) : Option Bool :=
  (((onField .is terms).filter (·.keyword = Term.uniqueWord)).getLast?).map (!·.negated)

/-- The range that the terms on an integer field leave. -/
def range (policy : BoundPolicy) (which : Numeric) (terms : List Term) : Range :=
  rangeOf policy (onField (.numeric which) terms)

/-- The constraint that the terms put under a key. -/
def constraintOf (policy : BoundPolicy) (terms : List Term) : Key → Option Constraint
  | .keywords => ofValues ((onField .is terms).flatMap Term.allKeywords)
  | .keywordsOr => ofValues ((onField .is terms).flatMap Term.anyKeywords)
  | .unique => (uniqueFlag? terms).map .flag
  | .decks => ofValues ((values .deck terms).map Text.upper)
  | .types => ofValues ((values .type terms).map Text.lower)
  | .clans => ofValues (values .clan terms)
  | .sets => ofValues (values .set terms)
  | .rarities => ofValues (values .rarity terms)
  | .legality => (values .format terms).head?.map fun format => .legality format ["legal"]
  | .numeric which =>
    let range := range policy which terms
    if range.isBounded then some (.range range) else none

end Filter

/-- The field whose terms put a constraint under the key. -/
def Key.field : Key → Field
  | .keywords | .keywordsOr | .unique => .is
  | .decks => .deck
  | .types => .type
  | .clans => .clan
  | .sets => .set
  | .rarities => .rarity
  | .legality => .format
  | .numeric which => .numeric which

theorem Key.forall_iff {P : Key → Prop} :
    (∀ key, P key) ↔ P .keywords ∧ P .keywordsOr ∧ P .unique ∧ P .decks ∧ P .types ∧ P .clans ∧
      P .sets ∧ P .rarities ∧ P .legality ∧ ∀ which, P (.numeric which) := by
  constructor
  · intro h
    exact ⟨h _, h _, h _, h _, h _, h _, h _, h _, h _, fun which => h _⟩
  · rintro ⟨h1, h2, h3, h4, h5, h6, h7, h8, h9, hnumeric⟩ key
    cases key with
    | numeric which => exact hnumeric which
    | _ => assumption

/-- Only the field of rules text also has the terms without a field. -/
theorem Term.target_eq_iff {term : Term} {field : Field} (h : field ≠ .text) :
    term.target = field ↔ term.field = some field := by
  rw [target]
  cases term.field with
  | none => simp [h.symm]
  | some other => simp

/-- A range that a term sets is the one of its comparison. -/
theorem Term.range?_eq_some_iff {term : Term} {new : Range} :
    term.range? = some new ↔ term.negated = false ∧
      ∃ n, Integer.read? term.value = some n ∧ Range.ofComparison term.operator n = new := by
  rw [range?]
  cases term.negated <;> simp

namespace Filter

/-! ## Terms on a field -/

theorem onField_filter (field : Field) (keep : Term → Bool) (terms : List Term) :
    onField field (terms.filter keep) = (onField field terms).filter keep := by
  simp only [onField, List.filter_filter, Bool.and_comm]

theorem onField_append (field : Field) (terms more : List Term) :
    onField field (terms ++ more) = onField field terms ++ onField field more :=
  List.filter_append terms more

theorem values_append (field : Field) (terms more : List Term) :
    values field (terms ++ more) = values field terms ++ values field more := by
  rw [values, plainValues, onField_append, List.filter_append, List.map_append]
  rfl

theorem onField_eq_nil {field : Field} {terms : List Term}
    (h : ∀ term ∈ terms, term.target ≠ field) : onField field terms = [] :=
  List.filter_eq_nil_iff.2 fun term hterm => by simpa using h term hterm

theorem mem_values_iff {field : Field} {terms : List Term} {value : Text} :
    value ∈ values field terms ↔
      ∃ term ∈ terms, term.target = field ∧ term.negated = false ∧ term.value = value := by
  simp only [values, plainValues, onField, List.mem_map, List.mem_filter, decide_eq_true_eq,
    Bool.not_eq_true', and_assoc]

/-- What terms contribute is not changed by leaving out some that contribute nothing. -/
theorem flatMap_filter_of_nil {α β : Type*} {contributes : α → List β} {keep : α → Bool}
    {l : List α} (h : ∀ a ∈ l, keep a = false → contributes a = []) :
    (l.filter keep).flatMap contributes = l.flatMap contributes := by
  induction l with
  | nil => rfl
  | cons a l ih =>
    obtain ⟨ha, hl⟩ := List.forall_mem_cons.1 h
    rw [List.flatMap_cons, ← ih hl, List.filter_cons]
    split
    · rw [List.flatMap_cons]
    · next hkeep => rw [ha (Bool.eq_false_iff.2 hkeep), List.nil_append]

/-! ## The text -/

/-- The fragments of text that one field contributes. -/
def block (field : Field) (terms : List Term) : List Text := (values field terms).filter (· ≠ [])

/-- Of the terms that look for a text, the first is on the name. -/
def namesFirst (terms : List Term) : Bool :=
  ((terms.map (·.target)).filter isTextual).head? == some .name

theorem isTextual_iff {field : Field} : isTextual field = true ↔ field = .text ∨ field = .name := by
  simp [isTextual]

theorem block_eq_nil_iff {field : Field} {terms : List Term} :
    block field terms = [] ↔
      ∀ term ∈ terms, term.target = field → term.negated = true ∨ term.value = [] := by
  simp only [block, List.filter_eq_nil_iff, mem_values_iff, decide_eq_true_eq, not_not]
  constructor
  · intro h term hterm htarget
    by_cases hnegated : term.negated = true
    · exact Or.inl hnegated
    · exact Or.inr (h _ ⟨term, hterm, htarget, Bool.eq_false_iff.2 hnegated, rfl⟩)
  · rintro h value ⟨term, hterm, htarget, hnegated, rfl⟩
    exact (h term hterm htarget).resolve_left (by simp [hnegated])

theorem block_eq_nil {field : Field} {terms : List Term}
    (h : ∀ term ∈ terms, term.target ≠ field) : block field terms = [] :=
  block_eq_nil_iff.2 fun term hterm htarget => absurd htarget (h term hterm)

/-- The blocks of a field and of the other one with text, if that field comes up first. -/
theorem flatMap_block_of_first (first second : Field) {terms : List Term} {rest : List Field}
    (hfields : (terms.map (·.target)).filter isTextual = first :: rest)
    (hsecond : isTextual second = true) (hne : second ≠ first)
    (honly : ∀ field, isTextual field = true → field = first ∨ field = second) :
    ((first :: rest).eraseDups.flatMap fun field => block field terms) =
      block first terms ++ block second terms := by
  have hrest : ∀ field ∈ rest.filter fun field => !field == first, field = second := by
    intro field hfield
    obtain ⟨hmem, hnot⟩ := List.mem_filter.1 hfield
    have hmem' : field ∈ (terms.map (·.target)).filter isTextual := by
      rw [hfields]
      exact List.mem_cons_of_mem _ hmem
    exact (honly field (List.mem_filter.1 hmem').2).resolve_left (by simpa using hnot)
  rw [List.eraseDups_cons, List.flatMap_cons]
  congr 1
  by_cases hnil : rest.filter (fun field => !field == first) = []
  · -- no term is on the second field
    rw [hnil, List.eraseDups_nil, List.flatMap_nil]
    refine (block_eq_nil fun term hterm htarget => ?_).symm
    have hmem : second ∈ (terms.map (·.target)).filter isTextual :=
      List.mem_filter.2 ⟨List.mem_map.2 ⟨term, hterm, htarget⟩, hsecond⟩
    rw [hfields] at hmem
    have hmem' := (List.mem_cons.1 hmem).resolve_left hne
    exact List.filter_eq_nil_iff.1 hnil second hmem' (by simpa using hne)
  · rw [eraseDups_of_forall_eq hnil hrest, List.flatMap_singleton]

/-- **The fragments are the block of rules text and the block of names**, in the order in which
the two fields come up. -/
theorem fragments_eq (terms : List Term) :
    fragments terms =
      if namesFirst terms then block .name terms ++ block .text terms
      else block .text terms ++ block .name terms := by
  rw [namesFirst]
  change ((terms.map (·.target)).filter isTextual).eraseDups.flatMap (fun f => block f terms) = _
  cases hfields : (terms.map (·.target)).filter isTextual with
  | nil =>
    have hnone : ∀ field, isTextual field = true → block field terms = [] := by
      refine fun field hfield => block_eq_nil fun term hterm htarget => ?_
      exact List.filter_eq_nil_iff.1 hfields field
        (List.mem_map.2 ⟨term, hterm, htarget⟩) hfield
    simp [hnone .text rfl, hnone .name rfl]
  | cons first rest =>
    have hfirst : first ∈ (terms.map (·.target)).filter isTextual := by simp [hfields]
    rcases isTextual_iff.1 (List.mem_filter.1 hfirst).2 with rfl | rfl
    · rw [flatMap_block_of_first .text .name hfields rfl (by decide) fun _ => isTextual_iff.1]
      rfl
    · rw [flatMap_block_of_first .name .text hfields rfl (by decide) fun _ hfield =>
        (isTextual_iff.1 hfield).symm]
      rfl

/-- The fragments come from the terms that look for a text. -/
theorem fragments_filter_isTextual (terms : List Term) :
    fragments (terms.filter fun term => isTextual term.target) = fragments terms := by
  have hfields : (((terms.filter fun term => isTextual term.target).map (·.target)).filter
      isTextual) = (terms.map (·.target)).filter isTextual := by
    rw [List.filter_map, List.filter_map, List.filter_filter]
    simp only [Function.comp_apply, Bool.and_self, Function.comp_def]
  have hblock : ∀ field, isTextual field = true →
      block field (terms.filter fun term => isTextual term.target) = block field terms := by
    intro field hfield
    have hsame : onField field (terms.filter fun term => isTextual term.target) =
        onField field terms := by
      rw [onField_filter, List.filter_eq_self]
      intro term hterm
      rw [of_decide_eq_true (List.mem_filter.1 hterm).2, hfield]
    rw [block, values, hsame, ← values, ← block]
  unfold fragments
  rw [hfields]
  refine List.flatMap_congr fun field hfield => hblock field ?_
  exact (List.mem_filter.1 (List.mem_eraseDups.1 hfield)).2

/-- Fragments that are put together are an empty text only if there are none. -/
theorem intercalate_eq_nil_iff {fragments : List Text} (h : ∀ fragment ∈ fragments, fragment ≠ []) :
    List.intercalate [' '] fragments = [] ↔ fragments = [] := by
  cases fragments with
  | nil => simp
  | cons first rest =>
    obtain ⟨c, first', rfl⟩ := List.exists_cons_of_ne_nil (h first List.mem_cons_self)
    cases rest <;> simp [List.intercalate_cons_cons]

/-! ## The constraints -/

/-- **A constraint hangs on the terms on its field alone.** -/
theorem constraintOf_congr (policy : BoundPolicy) {terms more : List Term} {key : Key}
    (h : onField key.field terms = onField key.field more) :
    constraintOf policy terms key = constraintOf policy more key := by
  cases key with
  | numeric which =>
    have hrange : range policy which terms = range policy which more :=
      congrArg (fun l => (l.filterMap Term.range?).foldl (Range.merge policy) Range.unbounded) h
    simp only [constraintOf, hrange]
  | _ =>
    rw [Key.field] at h
    simp only [constraintOf, values, uniqueFlag?, h]

theorem ofValues_eq_none_iff {values : List Text} : ofValues values = none ↔ values = [] := by
  simp [ofValues]

/-! ## Filters that restrict nothing -/

theorem mem_all (key : Key) : key ∈ Key.all := by
  cases key with
  | numeric which => cases which <;> decide
  | _ => decide

theorem isEmpty_iff (filter : Filter) :
    filter.isEmpty = true ↔ filter.text = [] ∧ ∀ key, filter.constraint key = none := by
  rw [isEmpty, Bool.and_eq_true, List.isEmpty_iff, List.isEmpty_iff, entries,
    List.filterMap_eq_nil_iff]
  simp [mem_all]

/-! ## One term -/

theorem onField_singleton (field : Field) (term : Term) :
    onField field [term] = if term.target = field then [term] else [] := by
  simp [onField, List.filter_cons]

theorem values_singleton (field : Field) (term : Term) :
    values field [term] =
      if term.target = field ∧ term.negated = false then [term.value] else [] := by
  rw [values, onField_singleton]
  by_cases htarget : term.target = field <;> cases hnegated : term.negated <;>
    simp [plainValues, htarget, hnegated]

theorem uniqueFlag?_singleton_eq_none_iff (term : Term) :
    uniqueFlag? [term] = none ↔ (term.target = .is → term.keyword ≠ Term.uniqueWord) := by
  rw [uniqueFlag?, onField_singleton]
  by_cases htarget : term.target = .is <;> by_cases hword : term.keyword = Term.uniqueWord <;>
    simp [htarget, hword]

theorem merge_unbounded (policy : BoundPolicy) (range : Range) :
    Range.unbounded.merge policy range = range := by
  obtain ⟨min, max⟩ := range
  cases policy <;> cases min <;> cases max <;> rfl

/-- The range of one term on the field. -/
theorem range_singleton (policy : BoundPolicy) (which : Numeric) (term : Term) :
    range policy which [term] =
      if term.target = .numeric which then term.range?.getD Range.unbounded
      else Range.unbounded := by
  rw [range, rangeOf, onField_singleton]
  split
  · cases hrange : term.range? with
    | none => simp [hrange]
    | some range => simp [hrange, merge_unbounded]
  · rfl

theorem isBounded_ofComparison (operator : Operator) (n : Int) :
    (Range.ofComparison operator n).isBounded = true := by
  cases operator <;> rfl

/-- A range that a term sets has an end. -/
theorem isBounded_range?_iff (term : Term) :
    (term.range?.getD Range.unbounded).isBounded = false ↔ term.range? = none := by
  cases hrange : term.range? with
  | none => simp [Range.isBounded, Range.unbounded]
  | some range =>
    obtain ⟨-, n, -, rfl⟩ := Term.range?_eq_some_iff.1 hrange
    simp [isBounded_ofComparison]

end Filter

end CardCatalog
