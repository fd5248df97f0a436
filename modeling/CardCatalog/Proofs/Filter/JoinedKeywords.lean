import CardCatalog.Proofs.Diagnostic.SingleTerm
import CardCatalog.Proofs.Text.Joined

/-!
# Keywords joined with `&`

A term that lists keywords with `&` should ask for the same as terms that name them one by one. Its
small form has the small forms of the keywords between the separators, so nothing happens to them on
the way into the filter (`Term.Joins.allKeywords`), and no other rule sees a difference. One word is
treated in two ways: on its own, `unique` sets the flag for unique cards, while in a list it is a
keyword. So the two ways to write keywords make the same filter just if that word is not among them
(`compile_joined_eq_iff`).
-/

namespace CardCatalog

open Text

namespace Term

/-! ## The terms -/

/-- The term names one keyword, or the flag, without anything around it. -/
structure IsSingle (term : Term) : Prop where
  field : term.field = some .is
  negated : term.negated = false
  ne_nil : term.value ≠ []
  head : ∀ c ∈ term.value.head?, isBlank c = false
  last : ∀ c ∈ term.value.getLast?, isBlank c = false
  bar : '|' ∉ term.value
  ampersand : '&' ∉ term.value

theorem isSingle_iff {term : Term} : term.IsSingle ↔
    term.field = some .is ∧ term.negated = false ∧ term.value ≠ [] ∧
      term.value.head?.any isBlank = false ∧ term.value.getLast?.any isBlank = false ∧
      '|' ∉ term.value ∧ '&' ∉ term.value := by
  rw [Option.any_eq_false, Option.any_eq_false]
  constructor
  · intro h
    exact ⟨h.field, h.negated, h.ne_nil, h.head, h.last, h.bar, h.ampersand⟩
  · rintro ⟨hfield, hnegated, hne, hhead, hlast, hbar, hampersand⟩
    exact ⟨hfield, hnegated, hne, hhead, hlast, hbar, hampersand⟩

instance (term : Term) : Decidable term.IsSingle := decidable_of_iff _ isSingle_iff.symm

/-- The term lists what the parts, at least two of them, name one by one. -/
structure Joins (joined : Term) (parts : List Term) : Prop where
  field : joined.field = some .is
  negated : joined.negated = false
  value : joined.value = List.intercalate ['&'] (parts.map (·.value))
  two_le : 2 ≤ parts.length
  single : ∀ part ∈ parts, part.IsSingle

namespace IsSingle

variable {term : Term} (h : term.IsSingle)
include h

theorem bar_not_mem_keyword : '|' ∉ term.keyword := mt (mem_keyword_iff (Or.inl rfl)).1 h.bar

theorem ampersand_not_mem_keyword : '&' ∉ term.keyword :=
  mt (mem_keyword_iff (Or.inr rfl)).1 h.ampersand

theorem keyword_ne_nil : term.keyword ≠ [] := mt lower_eq_nil_iff.1 h.ne_nil

/-- The small form has no blanks at its ends either. -/
theorem trim_keyword : trim term.keyword = term.keyword := by
  have hlowered := lowered_lower term.value
  apply trim_eq_self
  · intro c hc
    rw [← Bool.not_eq_true]
    intro hblank
    have hhead := hlowered.head?_of_isMark (isMark_of_isBlank hblank) hc
    rw [h.head c hhead] at hblank
    cases hblank
  · intro c hc
    rw [← Bool.not_eq_true]
    intro hblank
    have hlast := hlowered.getLast?_of_isMark (isMark_of_isBlank hblank) hc
    rw [h.last c hlast] at hblank
    cases hblank

theorem anyKeywords : term.anyKeywords = [] := by
  simp [Term.anyKeywords, h.bar_not_mem_keyword]

/-- The word for the flag is no keyword. -/
theorem allKeywords :
    term.allKeywords = if term.keyword = uniqueWord then [] else [term.keyword] := by
  simp [Term.allKeywords, h.negated, h.bar_not_mem_keyword, h.ampersand_not_mem_keyword]

end IsSingle

/-- Named one by one, all but the word for the flag are keywords. -/
theorem flatMap_allKeywords {parts : List Term} (h : ∀ part ∈ parts, part.IsSingle) :
    parts.flatMap allKeywords = (parts.map keyword).filter (· ≠ uniqueWord) := by
  induction parts with
  | nil => rfl
  | cons part rest ih =>
    obtain ⟨hpart, hrest⟩ := List.forall_mem_cons.1 h
    rw [List.flatMap_cons, ih hrest, hpart.allKeywords, List.map_cons, List.filter_cons]
    by_cases hword : part.keyword = uniqueWord <;> simp [hword]

theorem flatMap_anyKeywords {parts : List Term} (h : ∀ part ∈ parts, part.IsSingle) :
    parts.flatMap anyKeywords = [] :=
  List.flatMap_eq_nil_iff.2 fun part hpart => (h part hpart).anyKeywords

namespace Joins

variable {joined : Term} {parts : List Term} (h : joined.Joins parts)
include h

theorem keyword : joined.keyword = List.intercalate ['&'] (parts.map Term.keyword) := by
  rw [Term.keyword, h.value, lower_intercalate (by decide +kernel) (by decide), List.map_map]
  rfl

theorem ne_nil : parts ≠ [] := List.ne_nil_of_length_pos (Nat.lt_of_lt_of_le Nat.two_pos h.two_le)

theorem ampersand_mem_keyword : '&' ∈ joined.keyword := by
  rw [h.keyword]
  match parts, h.two_le with
  | first :: second :: rest, _ => simp [List.intercalate_cons_cons]

theorem pieces_keyword : pieces (· == '&') joined.keyword = parts.map Term.keyword := by
  rw [h.keyword]
  refine pieces_intercalate (by simpa using h.ne_nil) fun keyword hkeyword => ?_
  obtain ⟨part, hpart, rfl⟩ := List.mem_map.1 hkeyword
  exact (h.single part hpart).ampersand_not_mem_keyword

theorem bar_not_mem_keyword : '|' ∉ joined.keyword := by
  have hpieces : ∀ piece ∈ pieces (· == '&') joined.keyword, ∀ c ∈ piece, c ≠ '|' := by
    rw [h.pieces_keyword]
    rintro keyword hkeyword c hc rfl
    obtain ⟨part, hpart, rfl⟩ := List.mem_map.1 hkeyword
    exact (h.single part hpart).bar_not_mem_keyword hc
  intro hbar
  rcases forall_mem_pieces_iff.1 hpieces '|' hbar with hseparator | hne
  · exact absurd hseparator (by decide)
  · exact hne rfl

/-- **Listed, all of them are keywords.** -/
theorem allKeywords : joined.allKeywords = parts.map Term.keyword := by
  have htrim : (parts.map Term.keyword).map trim = parts.map Term.keyword := by
    rw [List.map_map]
    exact List.map_congr_left fun part hpart => (h.single part hpart).trim_keyword
  have hkept : (parts.map Term.keyword).filter (· ≠ []) = parts.map Term.keyword := by
    refine List.filter_eq_self.2 fun keyword hkeyword => ?_
    obtain ⟨part, hpart, rfl⟩ := List.mem_map.1 hkeyword
    exact decide_eq_true (h.single part hpart).keyword_ne_nil
  have hlist : keywordList '&' joined.keyword = parts.map Term.keyword := by
    rw [keywordList, h.pieces_keyword, htrim, hkept]
  simp [Term.allKeywords, h.negated, h.bar_not_mem_keyword, h.ampersand_mem_keyword, hlist]

theorem anyKeywords : joined.anyKeywords = [] := by
  simp [Term.anyKeywords, h.bar_not_mem_keyword]

theorem keyword_ne_uniqueWord : joined.keyword ≠ uniqueWord :=
  keyword_ne_uniqueWord_of_mem (Or.inr rfl)
    ((mem_keyword_iff (Or.inr rfl)).1 h.ampersand_mem_keyword)

end Joins

end Term

namespace Filter

/-! ## Terms in the middle of a query -/

section Middle

variable {middle : List Term} (before after : List Term)

theorem onField_middle {field : Field} (h : ∀ term ∈ middle, term.target = field) :
    onField field (before ++ middle ++ after) =
      onField field before ++ middle ++ onField field after := by
  have hmiddle : onField field middle = middle :=
    List.filter_eq_self.2 fun term hterm => decide_eq_true (h term hterm)
  rw [onField_append, onField_append, hmiddle]

theorem onField_around {field : Field} (h : ∀ term ∈ middle, term.target ≠ field) :
    onField field (before ++ middle ++ after) = onField field (before ++ after) := by
  rw [onField_append, onField_append, onField_eq_nil h, List.append_nil, onField_append]

theorem fragments_around (h : ∀ term ∈ middle, isTextual term.target = false) :
    fragments (before ++ middle ++ after) = fragments (before ++ after) := by
  have hmiddle : middle.filter (fun term => isTextual term.target) = [] :=
    List.filter_eq_nil_iff.2 fun term hterm => by simp [h term hterm]
  rw [← fragments_filter_isTextual, List.filter_append, List.filter_append, hmiddle,
    List.append_nil, ← List.filter_append, fragments_filter_isTextual]

/-- Terms that are not the word for the flag leave the flag as it is. -/
theorem uniqueFlag?_around (h : ∀ term ∈ middle, term.keyword ≠ Term.uniqueWord) :
    uniqueFlag? (before ++ middle ++ after) = uniqueFlag? (before ++ after) := by
  have hmiddle : (onField .is middle).filter (·.keyword = Term.uniqueWord) = [] :=
    List.filter_eq_nil_iff.2 fun term hterm => by simpa using h term (List.mem_filter.1 hterm).1
  unfold uniqueFlag?
  rw [onField_append, onField_append, List.filter_append, List.filter_append, hmiddle,
    List.append_nil, ← List.filter_append, ← onField_append]

end Middle

theorem ofValues_injective : Function.Injective ofValues := by
  intro values more h
  by_cases hnil : more = []
  · rw [hnil] at h ⊢
    exact ofValues_eq_none_iff.1 h
  · rw [ofValues, ofValues, if_neg hnil] at h
    split at h <;> cases h
    rfl

/-! ## One list or several terms -/

variable {joined : Term} {parts : List Term} (h : joined.Joins parts)
include h

theorem target_joined : ∀ term ∈ [joined], term.target = .is := by
  intro term hterm
  rw [List.mem_singleton.1 hterm]
  exact (Term.target_eq_iff (by decide)).2 h.field

theorem target_parts : ∀ part ∈ parts, part.target = .is := fun part hpart =>
  (Term.target_eq_iff (by decide)).2 (h.single part hpart).field

section Parts

variable (policy : BoundPolicy) (before after : List Term)

theorem fragments_joined :
    fragments (before ++ [joined] ++ after) = fragments (before ++ parts ++ after) := by
  have hjoined : ∀ term ∈ [joined], isTextual term.target = false := by
    intro term hterm
    rw [target_joined h term hterm]
    rfl
  have hparts : ∀ part ∈ parts, isTextual part.target = false := by
    intro part hpart
    rw [target_parts h part hpart]
    rfl
  rw [fragments_around before after hjoined, fragments_around before after hparts]

/-- **Listed, all words are keywords; one by one, all but that for the flag.** -/
theorem constraintOf_keywords_joined_iff :
    constraintOf policy (before ++ [joined] ++ after) .keywords =
        constraintOf policy (before ++ parts ++ after) .keywords ↔
      ∀ part ∈ parts, part.keyword ≠ Term.uniqueWord := by
  simp only [constraintOf, onField_middle before after (target_joined h),
    onField_middle before after (target_parts h), List.flatMap_append, List.flatMap_singleton,
    h.allKeywords, Term.flatMap_allKeywords h.single, ofValues_injective.eq_iff,
    List.append_cancel_left_eq, List.append_cancel_right_eq]
  rw [eq_comm, List.filter_eq_self]
  simp

theorem constraintOf_keywordsOr_joined :
    constraintOf policy (before ++ [joined] ++ after) .keywordsOr =
      constraintOf policy (before ++ parts ++ after) .keywordsOr := by
  simp only [constraintOf, onField_middle before after (target_joined h),
    onField_middle before after (target_parts h), List.flatMap_append, List.flatMap_singleton,
    h.anyKeywords, Term.flatMap_anyKeywords h.single]

theorem constraintOf_unique_joined (hword : ∀ part ∈ parts, part.keyword ≠ Term.uniqueWord) :
    constraintOf policy (before ++ [joined] ++ after) .unique =
      constraintOf policy (before ++ parts ++ after) .unique := by
  have hjoined : ∀ term ∈ [joined], term.keyword ≠ Term.uniqueWord := by
    intro term hterm
    rw [List.mem_singleton.1 hterm]
    exact h.keyword_ne_uniqueWord
  simp only [constraintOf, uniqueFlag?_around before after hjoined,
    uniqueFlag?_around before after hword]

/-- No constraint but the required keywords and the flag can differ. -/
theorem constraintOf_joined {key : Key} (hne : key ≠ .keywords) (hne' : key ≠ .unique) :
    constraintOf policy (before ++ [joined] ++ after) key =
      constraintOf policy (before ++ parts ++ after) key := by
  by_cases hfield : key.field = .is
  · cases key with
    | keywords => exact absurd rfl hne
    | unique => exact absurd rfl hne'
    | keywordsOr => exact constraintOf_keywordsOr_joined h policy before after
    | _ => cases hfield
  · have hjoined : ∀ term ∈ [joined], term.target ≠ key.field := by
      intro term hterm
      rw [target_joined h term hterm]
      exact Ne.symm hfield
    have hparts : ∀ part ∈ parts, part.target ≠ key.field := by
      intro part hpart
      rw [target_parts h part hpart]
      exact Ne.symm hfield
    apply constraintOf_congr
    rw [onField_around before after hjoined, onField_around before after hparts]

end Parts

/-- **Joined with `&` or one by one, keywords make the same filter just if the word for the flag is
not among them.** Nothing but the required keywords and the flag can differ. -/
theorem compile_joined_eq_iff (policy : BoundPolicy) (combinator : Combinator)
    (before after : List Term) :
    let whole := compile policy ⟨combinator, before ++ [joined] ++ after⟩
    let apart := compile policy ⟨combinator, before ++ parts ++ after⟩
    whole.text = apart.text ∧
      (∀ key, key ≠ .keywords → key ≠ .unique → whole.constraint key = apart.constraint key) ∧
      (whole = apart ↔ ∀ part ∈ parts, part.keyword ≠ Term.uniqueWord) := by
  intro whole apart
  have htext : whole.text = apart.text := by
    rw [text_compile, text_compile, fragments_joined h before after]
  have hconstraint : ∀ key, whole.constraint key = apart.constraint key ↔
      constraintOf policy (before ++ [joined] ++ after) key =
        constraintOf policy (before ++ parts ++ after) key := by
    intro key
    rw [constraint_compile, constraint_compile]
  have hkeywords : whole.constraint .keywords = apart.constraint .keywords ↔
      ∀ part ∈ parts, part.keyword ≠ Term.uniqueWord :=
    (hconstraint .keywords).trans (constraintOf_keywords_joined_iff h policy before after)
  have hother : ∀ key, key ≠ .keywords → key ≠ .unique →
      whole.constraint key = apart.constraint key :=
    fun key hkey hkey' => (hconstraint key).2 (constraintOf_joined h policy before after hkey hkey')
  refine ⟨htext, hother, ?_⟩
  constructor
  · intro heq
    exact hkeywords.1 (by rw [heq])
  · intro hword
    refine Filter.ext htext (funext fun key => ?_)
    by_cases hkey : key = .keywords
    · rw [hkey]
      exact hkeywords.2 hword
    · by_cases hkey' : key = .unique
      · rw [hkey']
        exact (hconstraint .unique).2 (constraintOf_unique_joined h policy before after hword)
      · exact hother key hkey hkey'

omit h

/-- Two keywords with capital letters, a sigma at the end of one, behind a flag. -/
theorem joined_keywords_with_final_sigma :
    let flag : Term := ⟨some .is, .contains, "unique", true⟩
    let joined : Term := ⟨some .is, .contains, "ΠΟΛΟΣ&Cavalry", false⟩
    let first : Term := ⟨some .is, .contains, "ΠΟΛΟΣ", false⟩
    let second : Term := ⟨some .is, .contains, "Cavalry", false⟩
    joined.Joins [first, second] ∧
      compile .last ⟨.and, [flag] ++ [joined] ++ []⟩ =
        compile .last ⟨.and, [flag] ++ [first, second] ++ []⟩ := by
  intro flag joined first second
  have hjoins : joined.Joins [first, second] := ⟨rfl, rfl, by decide, by decide, by decide⟩
  refine ⟨hjoins, (compile_joined_eq_iff hjoins .last .and [flag] []).2.2.2 ?_⟩
  decide +kernel

/-- In a list, the word for the flag asks for a keyword and sets no flag. -/
theorem flag_in_list_is_keyword :
    ¬ ∀ (policy : BoundPolicy) (combinator : Combinator) (joined : Term)
        (parts before after : List Term), joined.Joins parts →
        compile policy ⟨combinator, before ++ [joined] ++ after⟩ =
          compile policy ⟨combinator, before ++ parts ++ after⟩ := by
  intro h
  let joined : Term := ⟨some .is, .contains, "unique&cavalry", false⟩
  let first : Term := ⟨some .is, .contains, "unique", false⟩
  let second : Term := ⟨some .is, .contains, "cavalry", false⟩
  have hjoins : joined.Joins [first, second] := ⟨rfl, rfl, by decide, by decide, by decide⟩
  have hflag := congrArg (fun filter => filter.constraint .unique)
    (h .last .and joined [first, second] [] [] hjoins)
  revert hflag
  decide +kernel

end Filter

end CardCatalog
