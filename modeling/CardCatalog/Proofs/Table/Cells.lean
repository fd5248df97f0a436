import CardCatalog.Diagnostic.Layout
import CardCatalog.Filter.Layout
import CardCatalog.Proofs.Diagnostic.Account
import CardCatalog.Proofs.Field.Suggestion
import CardCatalog.Proofs.Json.Shown
import CardCatalog.Proofs.Table.Truncation
import CardCatalog.Proofs.Text.Controls
import CardCatalog.Query.Layout
import CardCatalog.Token.Layout

/-!
# Cells of tables

Every cell of a table is made of what the library writes itself and of parts of the expression. The
control characters in it are therefore those of the expression. The terms are followed from the
expression (`Term.DrawnFrom`) to messages (`controlsFrom_message`) and constraints
(`controlsFrom_shown`).
-/

namespace CardCatalog

open Text

variable {source : Text}

/-! ## Rows -/

namespace Table

theorem controlsFrom_truncate (max : Nat) (t : Text) : ControlsFrom t (truncate max t) := by
  rcases Nat.lt_or_ge max t.length with hlong | hshort
  · rw [truncate_of_lt hlong]
    exact (controlsFrom_of_subset (List.take_subset _ t)).append
      (controlsFrom_of_all (t := "...") t (by decide))
  · rw [truncate_of_length_le hshort]
    exact controlsFrom_of_subset (List.Subset.refl t)

theorem controlsFrom_row {cells : List (Nat × Text)} {last : Text}
    (hcells : ∀ cell ∈ cells, ControlsFrom source cell.2) (hlast : ControlsFrom source last) :
    ControlsFrom source (row cells last) := by
  refine ControlsFrom.append (controlsFrom_flatMap fun cell hcell => ?_) hlast
  exact (controlsFrom_padRight (hcells cell hcell) cell.1).append
    (controlsFrom_of_all (t := [' ']) source (by decide))

/-- Of a row in which only the last cell can have control characters, that cell decides. -/
theorem mem_row_iff {cells : List (Nat × Text)} {last : Text}
    (hcells : ∀ cell ∈ cells, ControlsFrom [] cell.2) {c : Char} (hcontrol : isControl c = true) :
    c ∈ row cells last ↔ c ∈ last := by
  have hfront : c ∉ row cells [] :=
    (controlsFrom_row hcells (controlsFrom_nil [])).not_mem hcontrol List.not_mem_nil
  rw [row, List.append_nil] at hfront
  rw [row, List.mem_append, or_iff_right hfront]

end Table

/-! ## Tokens -/

theorem Token.Segments.text_subset {offset : Nat} {s : Text} {tokens : List Token}
    (h : Token.Segments offset s tokens) : ∀ token ∈ tokens, token.text ⊆ s := by
  induction h with
  | nil _ => exact nofun
  | @cons offset ws t rest tokens _ _ _ _ ih =>
    refine List.forall_mem_cons.2 ⟨?_, fun token htoken => ?_⟩
    · exact List.Subset.trans (List.subset_append_left t rest) (List.subset_append_right ws _)
    · exact List.Subset.trans (ih token htoken)
        (List.Subset.trans (List.subset_append_right t rest) (List.subset_append_right ws _))

theorem Token.text_subset {expression : Text} {token : Token} (h : token ∈ Token.scan expression) :
    token.text ⊆ expression :=
  (segments_scan expression).text_subset token h

/-! ## Terms -/

theorem Operator.controlsFrom_symbol (source : Text) (operator : Operator) :
    ControlsFrom source operator.symbol :=
  controlsFrom_of_forall (by decide) source (isSymbolChar_of_mem_symbol operator)

namespace Term

/-- The value has its control characters from the source, and the field has none. -/
structure DrawnFrom (source : Text) (term : Term) : Prop where
  field : ∀ field ∈ term.field, ControlsFrom [] field.canonicalName
  value : ControlsFrom source term.value

theorem DrawnFrom.of_subset {wide : Text} {term : Term} (h : term.DrawnFrom source)
    (hsub : source ⊆ wide) : term.DrawnFrom wide where
  field := h.field
  value := (controlsFrom_of_subset hsub).trans h.value

theorem phrase_subset {body phrase : Text} (h : interior? body = some phrase) : phrase ⊆ body := by
  obtain ⟨rest, hbody, hrest⟩ := interior?_eq_some_iff.1 h
  have hphrase : phrase ⊆ rest := by
    rcases hrest with ⟨-, rfl⟩ | rfl
    · exact List.nil_subset rest
    · exact List.subset_append_left phrase _
  refine List.Subset.trans hphrase ?_
  rcases hbody with rfl | rfl
  · exact List.subset_cons_self _ rest
  · exact List.Subset.trans (List.subset_cons_self _ rest) (List.subset_cons_self _ _)

/-- The name of a field that is found is made of the characters of names. -/
theorem controlsFrom_canonicalName {name : Text} (hne : name ≠ [])
    (h : ∀ c ∈ name, isNameChar c = true) :
    ControlsFrom [] (Field.ofName name).canonicalName := by
  rw [Field.canonicalName_ofName]
  exact controlsFrom_of_forall (by decide) [] (isNameChar_of_mem_normalize hne h).2

theorem drawnFrom_ofBody (body : Text) (negated : Bool) :
    (ofBody body negated).DrawnFrom body := by
  rcases ofBody_cases body negated with
    ⟨phrase, hphrase, hterm⟩ | ⟨name, symbol, value, operator, -, hsplits, -, hterm⟩ | ⟨-, hterm⟩ <;>
    rw [hterm]
  · exact ⟨nofun, controlsFrom_of_subset (phrase_subset hphrase)⟩
  · have hvalue : ControlsFrom body value := by
      rw [hsplits.body_eq]
      exact controlsFrom_of_subset (List.subset_append_right _ value)
    refine ⟨fun field hfield => ?_, ?_⟩
    · rw [onField_field, Option.mem_some_iff] at hfield
      rw [← hfield]
      exact controlsFrom_canonicalName hsplits.name_ne_nil hsplits.name_chars
    · rcases onField_value (Field.ofName name) operator value negated with h | h <;> rw [h]
      · exact hvalue
      · exact hvalue.trans (controlsFrom_lower value)
  · exact ⟨nofun, controlsFrom_of_subset (List.Subset.refl body)⟩

theorem drawnFrom_ofToken (token : Text) : (ofToken token).DrawnFrom token := by
  rcases ofToken_cases token with ⟨body, rfl, hterm, -⟩ | ⟨-, hterm, -⟩ <;> rw [hterm]
  · exact (drawnFrom_ofBody body true).of_subset (List.subset_cons_self _ body)
  · exact drawnFrom_ofBody token false

theorem drawnFrom_of_mem_ofText {expression : Text} {term : Term}
    (h : term ∈ (Query.ofText expression).terms) : term.DrawnFrom expression := by
  obtain ⟨text, htext, rfl⟩ := List.mem_map.1 h
  have hscan := List.mem_filter.1 ((eraseDups_sublist _).subset htext)
  obtain ⟨token, htoken, rfl⟩ := List.mem_map.1 hscan.1
  exact (drawnFrom_ofToken token.text).of_subset (Token.text_subset htoken)

section DrawnFrom

variable {term : Term} (h : term.DrawnFrom source)
include h

theorem DrawnFrom.controlsFrom_text : ControlsFrom source term.text := by
  have hphrase : ControlsFrom source (['"'] ++ term.value ++ ['"']) :=
    h.value.between (by decide) (by decide)
  have hbody : ControlsFrom source term.body := by
    unfold body
    split
    · exact hphrase
    · exact h.value
    · next _ field hfield =>
      exact (((h.field field hfield).of_nil source).append
        (term.operator.controlsFrom_symbol source)).append h.value
  unfold text
  split
  · exact (controlsFrom_of_all (t := ['-']) source (by decide)).append hbody
  · exact hbody

theorem DrawnFrom.controlsFrom_keyword : ControlsFrom source term.keyword :=
  h.value.trans (controlsFrom_lower term.value)

omit h in
theorem controlsFrom_keywordList {separator : Char} {value piece : Text}
    (hvalue : ControlsFrom source value) (hpiece : piece ∈ keywordList separator value) :
    ControlsFrom source piece := by
  obtain ⟨untrimmed, huntrimmed, rfl⟩ := List.mem_map.1 (List.mem_filter.1 hpiece).1
  refine hvalue.of_subset (List.Subset.trans (trim_subset untrimmed) ?_)
  exact subset_of_mem_pieces huntrimmed

theorem DrawnFrom.controlsFrom_anyKeywords {keyword : Text} (hkeyword : keyword ∈ term.anyKeywords) :
    ControlsFrom source keyword := by
  unfold anyKeywords at hkeyword
  split at hkeyword
  · exact controlsFrom_keywordList h.controlsFrom_keyword hkeyword
  · cases hkeyword

theorem DrawnFrom.controlsFrom_allKeywords {keyword : Text} (hkeyword : keyword ∈ term.allKeywords) :
    ControlsFrom source keyword := by
  unfold allKeywords at hkeyword
  split at hkeyword
  · cases hkeyword
  split at hkeyword
  · exact controlsFrom_keywordList h.controlsFrom_keyword hkeyword
  split at hkeyword
  · cases hkeyword
  · rw [List.mem_singleton.1 hkeyword]
    exact h.controlsFrom_keyword

end DrawnFrom

end Term

/-! ## Rows of tokens and terms -/

/-- The numbers in front are without control characters. -/
theorem Token.controlsFrom_offset (token : Token) :
    ∀ cell ∈ [(6, ofNat token.offset)], ControlsFrom [] cell.2 :=
  List.forall_mem_singleton.2 (controlsFrom_ofNat [] token.offset)

theorem Token.controlsFrom_tokenRow {expression : Text} {token : Token}
    (h : token ∈ Token.scan expression) : ControlsFrom expression (tokenRow token) := by
  refine Table.controlsFrom_row (fun cell hcell => ?_) ?_
  · exact (token.controlsFrom_offset cell hcell).of_nil expression
  · exact (controlsFrom_of_subset (text_subset h)).trans (Table.controlsFrom_truncate _ _)

/-- The cells in front of the value are without control characters. -/
theorem Term.DrawnFrom.controlsFrom_front {term : Term} (h : term.DrawnFrom source) (number : Nat) :
    ∀ cell ∈ [(3, ofNat number), (3, if term.negated then ['-'] else []),
        (16, (term.field.map Field.canonicalName).getD "(text)".toList),
        (3, term.operator.symbol)], ControlsFrom [] cell.2 := by
  have hnegation : ControlsFrom [] (if term.negated then ['-'] else []) := by
    split <;> exact controlsFrom_of_all [] (by decide)
  have hname : ControlsFrom [] ((term.field.map Field.canonicalName).getD "(text)".toList) := by
    cases hfield : term.field with
    | none => exact controlsFrom_of_all [] (by decide)
    | some field => exact h.field field hfield
  simp only [List.forall_mem_cons]
  exact ⟨controlsFrom_ofNat [] number, hnegation, hname, term.operator.controlsFrom_symbol [], nofun⟩

theorem Term.DrawnFrom.controlsFrom_termRow {term : Term} (h : term.DrawnFrom source)
    (number : Nat) : ControlsFrom source (Query.termRow number term) := by
  refine Table.controlsFrom_row (fun cell hcell => ?_) ?_
  · exact (h.controlsFrom_front number cell hcell).of_nil source
  · exact h.value.trans (Table.controlsFrom_truncate _ _)

/-! ## Messages -/

theorem Field.controlsFrom_suggestion {written suggestion : Text}
    (h : suggest? written = some suggestion) : ControlsFrom [] suggestion := by
  have hall : ∀ candidate ∈ candidates, candidate.all (fun c => !isControl c) = true := by
    decide +kernel
  obtain ⟨nearest, n, hnearest, hsuggest⟩ := suggest?_cases written
  rw [hsuggest] at h
  split at h
  · cases h
    exact controlsFrom_of_all [] (hall suggestion hnearest.mem)
  · cases h

namespace Diagnostic

theorem controlsFrom_of_explains {before : List Term} {term : Term} {diagnostic : Diagnostic}
    (h : term.DrawnFrom source) (hexplains : diagnostic.Explains before term) :
    ControlsFrom source diagnostic.message := by
  have hname {field : Field} (hasks : term.asks field = true) :
      ControlsFrom source field.canonicalName :=
    (h.field field (Term.asks_iff.1 hasks).1).of_nil source
  cases hexplains with
  | ignoredNegation _ => exact h.controlsFrom_text.between (by decide) (by decide)
  | @unknownField name hasks _ =>
    refine ((hname hasks).between (by decide) (by decide)).append ?_
    split
    · next suggestion hsuggestion =>
      have hsuggested := (Field.controlsFrom_suggestion hsuggestion).of_nil source
      exact hsuggested.between (by decide) (by decide)
    · exact controlsFrom_nil source
  | nonIntegerValue hasks _ =>
    exact ((h.value.between (by decide) (by decide)).append (hname hasks)).append
      (controlsFrom_of_all source (by decide))
  | extraFormat _ _ => exact h.value.between (by decide) (by decide)
  | emptyValue _ _ => exact h.controlsFrom_text.between (by decide) (by decide)

theorem controlsFrom_message {expression : Text} {diagnostic : Diagnostic}
    (h : diagnostic ∈ ofQuery (Query.ofText expression)) :
    ControlsFrom expression diagnostic.message := by
  rw [ofQuery_eq_filterMap] at h
  obtain ⟨place, -, hreport⟩ := List.mem_filterMap.1 h
  obtain ⟨term, hterm, hexplains⟩ := reportAt?_eq_some_iff.1 hreport
  exact controlsFrom_of_explains
    (Term.drawnFrom_of_mem_ofText (List.mem_of_getElem? hterm)) hexplains

end Diagnostic

/-! ## Constraints -/

theorem Key.controlsFrom_name (key : Key) : ControlsFrom [] key.name := by
  have hall : ∀ key ∈ Key.all, key.name.all (fun c => !isControl c) = true := by decide +kernel
  exact controlsFrom_of_all [] (hall key (Filter.mem_all key))

theorem Range.controlsFrom_shown (source : Text) (range : Range) :
    ControlsFrom source range.shown := by
  unfold shown
  split
  · split
    · exact (controlsFrom_of_all source (by decide)).append (controlsFrom_ofInt source _)
    · exact ((controlsFrom_ofInt source _).append (controlsFrom_of_all source (by decide))).append
        (controlsFrom_ofInt source _)
  · exact (controlsFrom_of_all source (by decide)).append (controlsFrom_ofInt source _)
  · exact (controlsFrom_of_all source (by decide)).append (controlsFrom_ofInt source _)
  · exact controlsFrom_of_all source (by decide)

namespace Filter

section DrawnFrom

variable {terms : List Term} (h : ∀ term ∈ terms, term.DrawnFrom source)
include h

theorem controlsFrom_values {field : Field} {value : Text} (hvalue : value ∈ values field terms) :
    ControlsFrom source value := by
  obtain ⟨term, hterm, -, -, rfl⟩ := mem_values_iff.1 hvalue
  exact (h term hterm).value

omit h in
theorem controlsFrom_ofValues {values : List Text}
    (hvalues : ∀ value ∈ values, ControlsFrom source value)
    {constraint : Constraint} (hconstraint : ofValues values = some constraint) :
    ControlsFrom source constraint.shown := by
  unfold ofValues at hconstraint
  split at hconstraint
  · cases hconstraint
  · cases hconstraint
    exact controlsFrom_intercalate (controlsFrom_of_all source (by decide)) hvalues

theorem controlsFrom_shown (policy : BoundPolicy) {key : Key} {constraint : Constraint}
    (hconstraint : constraintOf policy terms key = some constraint) :
    ControlsFrom source constraint.shown := by
  cases key with
  | keywords =>
    refine controlsFrom_ofValues (fun keyword hkeyword => ?_) hconstraint
    obtain ⟨term, hterm, hmem⟩ := List.mem_flatMap.1 hkeyword
    exact (h term (List.mem_filter.1 hterm).1).controlsFrom_allKeywords hmem
  | keywordsOr =>
    refine controlsFrom_ofValues (fun keyword hkeyword => ?_) hconstraint
    obtain ⟨term, hterm, hmem⟩ := List.mem_flatMap.1 hkeyword
    exact (h term (List.mem_filter.1 hterm).1).controlsFrom_anyKeywords hmem
  | unique =>
    obtain ⟨value, -, rfl⟩ := Option.map_eq_some_iff.1 hconstraint
    cases value <;> exact controlsFrom_of_all source (by decide)
  | decks =>
    refine controlsFrom_ofValues (fun large hlarge => ?_) hconstraint
    obtain ⟨value, hvalue, rfl⟩ := List.mem_map.1 hlarge
    exact (controlsFrom_values h hvalue).trans (controlsFrom_upper value)
  | types =>
    refine controlsFrom_ofValues (fun small hsmall => ?_) hconstraint
    obtain ⟨value, hvalue, rfl⟩ := List.mem_map.1 hsmall
    exact (controlsFrom_values h hvalue).trans (controlsFrom_lower value)
  | legality =>
    obtain ⟨format, hformat, rfl⟩ := Option.map_eq_some_iff.1 hconstraint
    exact (controlsFrom_of_all source (by decide)).append
      (controlsFrom_values h (List.mem_of_mem_head? hformat))
  | numeric which =>
    simp only [constraintOf] at hconstraint
    split at hconstraint
    · cases hconstraint
      exact Range.controlsFrom_shown source _
    · cases hconstraint
  | _ => exact controlsFrom_ofValues (fun value => controlsFrom_values h) hconstraint

theorem controlsFrom_text (policy : BoundPolicy) (combinator : Combinator) :
    ControlsFrom source (compile policy ⟨combinator, terms⟩).text := by
  rw [text_compile]
  refine controlsFrom_intercalate (controlsFrom_of_all source (by decide)) fun fragment hfragment => ?_
  obtain ⟨field, -, hvalues⟩ := List.mem_flatMap.1 hfragment
  exact controlsFrom_values h (List.mem_filter.1 hvalues).1

theorem controlsFrom_constraintRow (policy : BoundPolicy) (combinator : Combinator)
    {entry : Key × Constraint} (hentry : entry ∈ (compile policy ⟨combinator, terms⟩).entries) :
    ControlsFrom source (constraintRow entry) := by
  obtain ⟨key, constraint⟩ := entry
  rw [mem_entries_iff, constraint_compile] at hentry
  refine Table.controlsFrom_row (fun cell hcell => ?_) (controlsFrom_shown h policy hentry)
  rw [List.mem_singleton.1 hcell]
  exact key.controlsFrom_name.of_nil source

end DrawnFrom

end Filter

end CardCatalog
