import CardCatalog.Proofs.Filter.Fields
import Mathlib.Data.List.Induction

/-!
# One field at a time

The terms of a query fall into groups, one for each field, in the order in which the fields come up.
One pass over the terms puts every term behind those on its field that are there already; it leaves
each field with its own terms in their order, and no field with two groups (`groups_eq`).

The groups add to a draft of the filter one after the other. A group adds under the keys of its field
only (`Draft.constraint_add_of_ne`), and puts there what its terms ask for
(`Draft.constraint_add_self`). As the fields of the groups differ, nothing is there before the turn
of the group (`constraint_before`) and nothing is changed behind it (`constraint_after`). So no
constraint is replaced, and the filter has under each key what the terms on its field ask for, with
the fragments of text in the order of the groups (`compile_eq`).

So the order of terms on different fields does not matter, but for the text, where it matters
whether rules text or names come up first (`compile_of_onField_eq`).
-/

namespace CardCatalog

namespace Filter

/-! ## Grouping -/

theorem onField_append_singleton (field : Field) (terms : List Term) (term : Term) :
    onField field (terms ++ [term]) =
      onField field terms ++ if term.target = field then [term] else [] := by
  rw [onField_append, onField_singleton]

/-- **One more term** joins the terms on its field, which are all there already if there are any. -/
theorem addTo_map_onField {fields : List Field} (hnodup : fields.Nodup) {terms : List Term}
    {term : Term} (hmem : term.target ∉ fields → onField term.target terms = []) :
    addTo term (fields.map fun field => (field, onField field terms)) =
      (if term.target ∈ fields then fields else fields ++ [term.target]).map
        fun field => (field, onField field (terms ++ [term])) := by
  induction fields with
  | nil =>
    have hnone := hmem List.not_mem_nil
    simp [addTo, onField_append_singleton, hnone]
  | cons field rest ih =>
    obtain ⟨hnotMem, hnodup⟩ := List.nodup_cons.1 hnodup
    rw [List.map_cons, addTo]
    by_cases hfield : field = term.target
    · -- the later groups stay as they are
      have hrest : ∀ other ∈ rest, (other, onField other (terms ++ [term])) =
          (other, onField other terms) := by
        intro other hother
        have hne : term.target ≠ other := by
          rintro rfl
          exact hnotMem (hfield ▸ hother)
        rw [onField_append_singleton, if_neg hne, List.append_nil]
      rw [if_pos hfield, if_pos (by simp [hfield]), List.map_cons, List.map_congr_left hrest,
        onField_append_singleton, if_pos hfield.symm]
    · have hne : term.target ≠ field := fun h => hfield h.symm
      have hrest := ih hnodup fun hnot => hmem (by simp [hne, hnot])
      have hfields : (if term.target ∈ field :: rest then field :: rest
          else field :: rest ++ [term.target]) =
            field :: if term.target ∈ rest then rest else rest ++ [term.target] := by
        simp only [List.mem_cons, hne, false_or]
        split <;> rfl
      rw [if_neg hfield, hrest, hfields, List.map_cons, onField_append_singleton, if_neg hne,
        List.append_nil]

/-- **Every field has one group, with all terms on it in their order.** -/
theorem groups_eq (terms : List Term) :
    groups terms =
      (terms.map (·.target)).eraseDups.map fun field => (field, onField field terms) := by
  induction terms using List.reverseRecOn with
  | nil => rfl
  | append_singleton terms term ih =>
    have hmem : term.target ∉ (terms.map (·.target)).eraseDups →
        onField term.target terms = [] := by
      intro hnot
      refine onField_eq_nil fun other hother htarget => hnot ?_
      exact List.mem_eraseDups.2 (List.mem_map.2 ⟨other, hother, htarget⟩)
    rw [List.map_append, List.map_singleton, eraseDups_append_singleton]
    simp only [← List.mem_eraseDups (l := terms.map (·.target))]
    rw [← addTo_map_onField (nodup_eraseDups _) hmem, ← ih, groups, List.foldl_append]
    rfl

theorem map_fst_groups (terms : List Term) :
    (groups terms).map Prod.fst = (terms.map (·.target)).eraseDups := by
  rw [groups_eq, List.map_map]
  exact List.map_id _

/-- No field has two groups. -/
theorem nodup_fields (terms : List Term) : ((groups terms).map Prod.fst).Nodup := by
  rw [map_fst_groups]
  exact nodup_eraseDups _

theorem mem_fields_iff {field : Field} {terms : List Term} :
    field ∈ (groups terms).map Prod.fst ↔ ∃ term ∈ terms, term.target = field := by
  rw [map_fst_groups, List.mem_eraseDups, List.mem_map]

theorem eq_of_mem_groups {terms : List Term} {group : Field × List Term}
    (h : group ∈ groups terms) : group = (group.1, onField group.1 terms) := by
  rw [groups_eq] at h
  obtain ⟨field, -, rfl⟩ := List.mem_map.1 h
  rfl

/-! ## Keyword terms -/

namespace Keywords

/-- What one more term asks for joins what was asked for. -/
theorem add_eq (found : Keywords) (term : Term) :
    found.add term = ⟨found.all ++ term.allKeywords, found.any ++ term.anyKeywords,
      if term.keyword = Term.uniqueWord then some (!term.negated) else found.unique⟩ := by
  unfold add Term.allKeywords Term.anyKeywords
  by_cases hword : term.keyword = Term.uniqueWord
  · -- the word for the flag is no list
    have hbar : '|' ∉ Term.uniqueWord := by decide
    have hand : '&' ∉ Term.uniqueWord := by decide
    simp [hword, hbar, hand]
  · cases term.keyword.contains '|' <;> cases term.keyword.contains '&' <;>
      cases term.negated <;> simp [hword]

/-- **The terms one after the other**: the two lists grow, and the last word for the flag stays. -/
theorem foldl_add (found : Keywords) (members : List Term) :
    members.foldl add found =
      ⟨found.all ++ members.flatMap Term.allKeywords, found.any ++ members.flatMap Term.anyKeywords,
        ((members.filter (·.keyword = Term.uniqueWord)).getLast?.map (!·.negated)).or
          found.unique⟩ := by
  induction members generalizing found with
  | nil => simp
  | cons term rest ih =>
    rw [List.foldl_cons, ih, add_eq, List.flatMap_cons, List.flatMap_cons, List.append_assoc,
      List.append_assoc, List.filter_cons]
    by_cases hword : term.keyword = Term.uniqueWord
    · rw [if_pos hword, if_pos (decide_eq_true hword), List.getLast?_cons]
      cases (rest.filter (·.keyword = Term.uniqueWord)).getLast? <;> rfl
    · rw [if_neg hword, if_neg (by simpa using hword)]

theorem foldl_add_empty (members : List Term) :
    members.foldl add empty =
      ⟨members.flatMap Term.allKeywords, members.flatMap Term.anyKeywords,
        (members.filter (·.keyword = Term.uniqueWord)).getLast?.map (!·.negated)⟩ := by
  simp [foldl_add, empty]

end Keywords

/-! ## One group -/

namespace Draft

variable {policy : BoundPolicy} {draft : Draft} {key : Key}

theorem constraint_put (draft : Draft) (key other : Key) (new : Option Constraint) :
    (draft.put key new).constraint other =
      if other = key then new.or (draft.constraint other) else draft.constraint other := by
  cases new with
  | none => rw [Option.none_or, ite_self]; rfl
  | some constraint => rfl

theorem constraint_put_of_ne {other : Key} (h : other ≠ key) (new : Option Constraint) :
    (draft.put key new).constraint other = draft.constraint other := by
  rw [constraint_put, if_neg h]

/-- What goes under a key where nothing is yet is there alone. -/
theorem constraint_put_self (h : draft.constraint key = none) (new : Option Constraint) :
    (draft.put key new).constraint key = new := by
  rw [constraint_put, if_pos rfl, h, Option.or_none]

theorem fragments_put (draft : Draft) (key : Key) (new : Option Constraint) :
    (draft.put key new).fragments = draft.fragments := by
  cases new <;> rfl

/-- **A group leaves the keys of other fields alone.** -/
theorem constraint_add_of_ne {group : Field × List Term} (h : key.field ≠ group.1) :
    (draft.add policy group).constraint key = draft.constraint key := by
  obtain ⟨field, members⟩ := group
  have hne : ∀ other : Key, other.field = field → key ≠ other := by
    rintro other hother rfl
    exact h hother
  cases field with
  | text | name | other => rfl
  | is =>
    simp only [add, constraint_put_of_ne (hne .unique rfl),
      constraint_put_of_ne (hne .keywordsOr rfl), constraint_put_of_ne (hne .keywords rfl)]
  | deck => exact constraint_put_of_ne (hne .decks rfl) _
  | type => exact constraint_put_of_ne (hne .types rfl) _
  | clan => exact constraint_put_of_ne (hne .clans rfl) _
  | set => exact constraint_put_of_ne (hne .sets rfl) _
  | rarity => exact constraint_put_of_ne (hne .rarities rfl) _
  | format => exact constraint_put_of_ne (hne .legality rfl) _
  | numeric which => exact constraint_put_of_ne (hne (.numeric which) rfl) _

/-- The group of flags and keywords puts something under three keys. -/
theorem add_is (policy : BoundPolicy) (draft : Draft) (terms : List Term) :
    draft.add policy (.is, onField .is terms) =
      ((draft.put .keywords (constraintOf policy terms .keywords)).put .keywordsOr
        (constraintOf policy terms .keywordsOr)).put .unique (constraintOf policy terms .unique) := by
  simp only [add, Keywords.foldl_add_empty]
  rfl

/-- **A group puts under the keys of its field what its terms ask for.** -/
theorem constraint_add_self {terms : List Term} (h : draft.constraint key = none) :
    (draft.add policy (key.field, onField key.field terms)).constraint key =
      constraintOf policy terms key := by
  cases key with
  | keywords =>
    have hor : Key.keywords ≠ .keywordsOr := by decide
    have hunique : Key.keywords ≠ .unique := by decide
    rw [Key.field, add_is, constraint_put_of_ne hunique, constraint_put_of_ne hor,
      constraint_put_self h]
  | keywordsOr =>
    have hall : Key.keywordsOr ≠ .keywords := by decide
    have hunique : Key.keywordsOr ≠ .unique := by decide
    rw [Key.field, add_is, constraint_put_of_ne hunique, constraint_put_self]
    rwa [constraint_put_of_ne hall]
  | unique =>
    have hall : Key.unique ≠ .keywords := by decide
    have hor : Key.unique ≠ .keywordsOr := by decide
    rw [Key.field, add_is, constraint_put_self]
    rwa [constraint_put_of_ne hor, constraint_put_of_ne hall]
  | decks | types | clans | sets | rarities | legality | numeric => exact constraint_put_self h _

/-- A group on rules text or names adds the values of its terms behind the text so far. -/
theorem fragments_add (policy : BoundPolicy) (draft : Draft) (group : Field × List Term) :
    (draft.add policy group).fragments = draft.fragments ++
      if isTextual group.1 then (plainValues group.2).filter (· ≠ []) else [] := by
  obtain ⟨field, members⟩ := group
  cases field with
  | text | name => rfl
  | _ => simp [add, fragments_put, isTextual]

end Draft

/-! ## One group after the other -/

/-- Groups on other fields leave a key alone. -/
theorem constraint_foldl_add {policy : BoundPolicy} {key : Key} {found : List (Field × List Term)}
    (h : key.field ∉ found.map Prod.fst) (draft : Draft) :
    (found.foldl (Draft.add policy) draft).constraint key = draft.constraint key := by
  induction found generalizing draft with
  | nil => rfl
  | cons group rest ih =>
    rw [List.map_cons, List.mem_cons, not_or] at h
    rw [List.foldl_cons, ih h.2, Draft.constraint_add_of_ne h.1]

theorem fragments_foldl_add (policy : BoundPolicy) (found : List (Field × List Term))
    (draft : Draft) :
    (found.foldl (Draft.add policy) draft).fragments = draft.fragments ++
      found.flatMap fun group =>
        if isTextual group.1 then (plainValues group.2).filter (· ≠ []) else [] := by
  induction found generalizing draft with
  | nil => simp
  | cons group rest ih =>
    rw [List.foldl_cons, ih, Draft.fragments_add, List.flatMap_cons, List.append_assoc]

section Turn

variable {terms : List Term} {before after : List (Field × List Term)}
  {group : Field × List Term} {key : Key}

/-- A group is the only one on its field. -/
theorem not_mem_of_groups_eq (h : groups terms = before ++ group :: after) :
    group.1 ∉ before.map Prod.fst ∧ group.1 ∉ after.map Prod.fst := by
  have hnodup := nodup_fields terms
  rw [h, List.map_append, List.map_cons, List.nodup_append] at hnodup
  obtain ⟨-, hafter, hbefore⟩ := hnodup
  exact ⟨fun hmem => hbefore _ hmem _ List.mem_cons_self rfl, (List.nodup_cons.1 hafter).1⟩

/-- **Before the turn of a group there is nothing under the keys of its field**, so that none of its
constraints replaces one. -/
theorem constraint_before (policy : BoundPolicy) (h : groups terms = before ++ group :: after)
    (hkey : key.field = group.1) :
    (before.foldl (Draft.add policy) Draft.empty).constraint key = none := by
  have hnot := (not_mem_of_groups_eq h).1
  rw [← hkey] at hnot
  rw [constraint_foldl_add hnot]
  rfl

/-- **After the turn of a group the constraints under the keys of its field stay.** -/
theorem constraint_after (policy : BoundPolicy) (h : groups terms = before ++ group :: after)
    (hkey : key.field = group.1) (draft : Draft) :
    (after.foldl (Draft.add policy) draft).constraint key = draft.constraint key := by
  have hnot := (not_mem_of_groups_eq h).2
  rw [← hkey] at hnot
  exact constraint_foldl_add hnot draft

end Turn

/-! ## The filter -/

theorem constraintOf_nil (policy : BoundPolicy) (key : Key) : constraintOf policy [] key = none := by
  cases key <;> rfl

/-- **Under each key the filter has what the terms on its field ask for.** -/
theorem constraint_compile (policy : BoundPolicy) (query : Query) (key : Key) :
    (compile policy query).constraint key = constraintOf policy query.terms key := by
  change ((groups query.terms).foldl (Draft.add policy) Draft.empty).constraint key = _
  by_cases hfield : key.field ∈ (groups query.terms).map Prod.fst
  · obtain ⟨group, hgroup, hname⟩ := List.mem_map.1 hfield
    obtain ⟨before, after, hsplit⟩ := List.append_of_mem hgroup
    have hfree := constraint_before policy hsplit hname.symm
    rw [hsplit, List.foldl_append, List.foldl_cons,
      constraint_after policy hsplit hname.symm, eq_of_mem_groups hgroup, hname,
      Draft.constraint_add_self hfree]
  · have hnone : onField key.field query.terms = onField key.field [] :=
      onField_eq_nil fun term hterm htarget => hfield (mem_fields_iff.2 ⟨term, hterm, htarget⟩)
    rw [constraint_foldl_add hfield, constraintOf_congr policy hnone, constraintOf_nil]
    rfl

theorem block_congr {field : Field} {terms more : List Term}
    (h : onField field terms = onField field more) : block field terms = block field more := by
  rw [block, values, h, ← values, ← block]

/-- The fragments of the textual groups, in their order, are those of the query. -/
theorem flatMap_groups (terms : List Term) :
    ((groups terms).flatMap fun group =>
      if isTextual group.1 then (plainValues group.2).filter (· ≠ []) else []) =
        fragments terms := by
  let fields := (terms.map (·.target)).eraseDups
  have hnil : ∀ field ∈ fields, isTextual field = false →
      (if isTextual field then block field terms else []) = [] :=
    fun field _ hfield => by rw [hfield, if_neg Bool.false_ne_true]
  calc
    _ = fields.flatMap fun field => if isTextual field then block field terms else [] := by
      rw [groups_eq, List.flatMap_map]
      rfl
    _ = (fields.filter isTextual).flatMap fun field =>
        if isTextual field then block field terms else [] := (flatMap_filter_of_nil hnil).symm
    _ = (fields.filter isTextual).flatMap fun field => block field terms :=
      List.flatMap_congr fun field hfield => if_pos (List.mem_filter.1 hfield).2
    _ = fragments terms := by
      rw [← eraseDups_filter]
      rfl

/-- **The text is made of the fragments of the terms on rules text and names.** -/
theorem text_compile (policy : BoundPolicy) (query : Query) :
    (compile policy query).text = List.intercalate [' '] (fragments query.terms) := by
  rw [compile, fragments_foldl_add, flatMap_groups]
  rfl

/-- **What the groups add one after the other** is the text of the fragments, and under each key what
the terms ask for there. -/
theorem compile_eq (policy : BoundPolicy) (query : Query) :
    compile policy query =
      ⟨List.intercalate [' '] (fragments query.terms), constraintOf policy query.terms⟩ :=
  Filter.ext (text_compile policy query) (funext (constraint_compile policy query))

/-- **The text is empty just if the terms that look for a text are negated or have no value.** -/
theorem text_compile_eq_nil_iff (policy : BoundPolicy) (query : Query) :
    (compile policy query).text = [] ↔
      ∀ term ∈ query.terms, isTextual term.target = true →
        term.negated = true ∨ term.value = [] := by
  have hne : ∀ fragment ∈ fragments query.terms, fragment ≠ [] := by
    intro fragment hfragment
    obtain ⟨field, -, hmem⟩ := List.mem_flatMap.1 hfragment
    exact of_decide_eq_true (List.mem_filter.1 hmem).2
  have hblocks : fragments query.terms = [] ↔
      block .text query.terms = [] ∧ block .name query.terms = [] := by
    rw [fragments_eq]
    split <;> simp [and_comm]
  rw [text_compile, intercalate_eq_nil_iff hne, hblocks, block_eq_nil_iff, block_eq_nil_iff]
  simp only [isTextual_iff]
  constructor
  · rintro ⟨htext, hname⟩ term hterm (htarget | htarget)
    · exact htext term hterm htarget
    · exact hname term hterm htarget
  · intro h
    exact ⟨fun term hterm htarget => h term hterm (Or.inl htarget),
      fun term hterm htarget => h term hterm (Or.inr htarget)⟩

/-! ## The order of the terms -/

/-- The place of the first term on the field; behind all terms if there is none. -/
def firstOn (field : Field) (terms : List Term) : Nat := terms.findIdx (·.target = field)

/-- Rules text and names come up in the same order in both lists, or one of them does not at all. -/
def SameTextOrder (terms more : List Term) : Prop :=
  (firstOn .name terms < firstOn .text terms ↔ firstOn .name more < firstOn .text more) ∨
    onField .text terms = [] ∨ onField .name terms = []

theorem namesFirst_iff (terms : List Term) :
    namesFirst terms = true ↔ firstOn .name terms < firstOn .text terms := by
  induction terms with
  | nil => simp [namesFirst, firstOn]
  | cons term rest ih =>
    rw [namesFirst, firstOn, firstOn, List.findIdx_cons, List.findIdx_cons, List.map_cons,
      List.filter_cons]
    by_cases htext : term.target = .text
    · simp [htext, isTextual]
    · by_cases hname : term.target = .name
      · simp [hname, isTextual]
      · have hnot : isTextual term.target = false := by simp [isTextual, htext, hname]
        rw [hnot, if_neg Bool.false_ne_true, ← namesFirst, ih]
        simp [htext, hname, firstOn]

/-- **A filter looks at each field on its own**: terms that are the same on every field put the same
constraints under all keys, and give the same text as well if rules text and names come up in the
same order. -/
theorem compile_of_onField_eq (policy : BoundPolicy) {query other : Query}
    (h : ∀ field, onField field query.terms = onField field other.terms) :
    (compile policy query).constraint = (compile policy other).constraint ∧
      (SameTextOrder query.terms other.terms →
        (compile policy query).text = (compile policy other).text) := by
  refine ⟨?_, fun horder => ?_⟩
  · funext key
    rw [constraint_compile, constraint_compile]
    exact constraintOf_congr policy (h key.field)
  have htexts := block_congr (h .text)
  have hnames := block_congr (h .name)
  simp only [text_compile, fragments_eq, htexts, hnames]
  rcases horder with horder | htext | hname
  · have hfirst : namesFirst query.terms = namesFirst other.terms := by
      rw [Bool.eq_iff_iff, namesFirst_iff, namesFirst_iff]
      exact horder
    rw [hfirst]
  · -- without rules text there are only names
    have hnone : block .text other.terms = [] := by rw [← htexts, block, values, htext]; rfl
    simp [hnone]
  · have hnone : block .name other.terms = [] := by rw [← hnames, block, values, hname]; rfl
    simp [hnone]

/-- Terms on four fields and one without a field, and the same terms with other fields first. -/
theorem compile_of_fields_interleaved :
    let free : Term := ⟨none, .contains, "Doji", false⟩
    let rules : Term := ⟨some .text, .contains, "bow", false⟩
    let name : Term := ⟨some .name, .contains, "Hoturi", false⟩
    let force : Term := ⟨some (.numeric .force), .greater, "3", false⟩
    let less : Term := ⟨some (.numeric .force), .less, "3", false⟩
    let artist : Term := ⟨some (.other "artist"), .exact, "Smith", true⟩
    let query : Query := ⟨.and, [free, force, rules, name, less, artist]⟩
    let other : Query := ⟨.or, [artist, force, less, free, name, rules]⟩
    (∀ field, onField field query.terms = onField field other.terms) ∧
      SameTextOrder query.terms other.terms ∧
      (compile .last query).constraint = (compile .last other).constraint ∧
      (compile .last query).text = (compile .last other).text := by
  intro free rules name force less artist query other
  have hfields : ∀ field, onField field query.terms = onField field other.terms := by
    intro field
    cases field with
    | numeric which => cases which <;> rfl
    | _ => rfl
  have horder : SameTextOrder query.terms other.terms := Or.inl (by decide)
  obtain ⟨hconstraint, htext⟩ := compile_of_onField_eq .last hfields
  exact ⟨hfields, horder, hconstraint, htext horder⟩

end Filter

end CardCatalog
