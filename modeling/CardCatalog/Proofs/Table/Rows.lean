import CardCatalog.Proofs.Table.Cells
import Mathlib.Algebra.Order.BigOperators.Group.List

/-!
# Rows of tables

A table has a row for each token, term or diagnostic, but a row is a line of the table only as long
as there is no line feed in it (`length_lines_ofLines_iff`). Cells of free text keep the line feeds
of the expression, if these stand in quotes. So the tables keep one line for each row just if no cell
has a line feed, as is the case for an expression without one (`one_line_each_iff`); and there are
expressions for which none of them does (`quoted_line_feed_makes_lines`).
-/

namespace CardCatalog

open Text

/-! ## Lines -/

namespace Text

/-- The lines of a text. The last one need not end in a line feed. -/
def lines : Text → List Text
  | [] => []
  | c :: rest =>
    if c = '\n' then [] :: lines rest
    else
      match lines rest with
      | [] => [[c]]
      | line :: more => (c :: line) :: more

theorem lines_cons_of_ne {c : Char} (hc : c ≠ '\n') {rest line : Text} {more : List Text}
    (h : lines rest = line :: more) : lines (c :: rest) = (c :: line) :: more := by
  rw [lines, if_neg hc, h]

theorem lines_append {line : Text} (h : '\n' ∉ line) (rest : Text) :
    lines (line ++ '\n' :: rest) = line :: lines rest := by
  induction line with
  | nil => rfl
  | cons c line ih =>
    obtain ⟨hc, hline⟩ := List.ne_and_not_mem_of_not_mem_cons h
    exact lines_cons_of_ne hc.symm (ih hline)

/-- Every line feed ends a line. -/
theorem length_lines_append (t rest : Text) :
    (lines (t ++ '\n' :: rest)).length = t.count '\n' + 1 + (lines rest).length := by
  induction t with
  | nil => rw [List.count_nil, List.nil_append, lines, if_pos rfl, List.length_cons]; omega
  | cons c t ih =>
    by_cases hc : c = '\n'
    · rw [List.cons_append, lines, if_pos hc, List.length_cons, ih, hc, List.count_cons_self]
      omega
    · obtain ⟨line, more, hlines⟩ : ∃ line more, lines (t ++ '\n' :: rest) = line :: more := by
        refine List.exists_cons_of_ne_nil fun hnil => ?_
        rw [hnil, List.length_nil] at ih
        omega
      rw [hlines] at ih
      rw [List.cons_append, lines_cons_of_ne hc hlines, List.count_cons_of_ne hc, ← ih,
        List.length_cons, List.length_cons]

theorem lines_ofLines {rows : List Text} (h : ∀ row ∈ rows, '\n' ∉ row) :
    lines (ofLines rows) = rows := by
  induction rows with
  | nil => rfl
  | cons row rows ih =>
    obtain ⟨hrow, hrows⟩ := List.forall_mem_cons.1 h
    rw [ofLines, List.flatMap_cons, List.append_assoc, List.singleton_append, lines_append hrow]
    exact congrArg (row :: ·) (ih hrows)

/-- **Rows are lines just if there is no line feed in them.** -/
theorem length_lines_ofLines_iff {rows : List Text} :
    (lines (ofLines rows)).length = rows.length ↔ ∀ row ∈ rows, '\n' ∉ row := by
  have hlength : (lines (ofLines rows)).length =
      (rows.map (List.count '\n')).sum + rows.length := by
    induction rows with
    | nil => rfl
    | cons row rows ih =>
      rw [ofLines, List.flatMap_cons, List.append_assoc, List.singleton_append,
        length_lines_append, ← ofLines, ih, List.map_cons, List.sum_cons, List.length_cons]
      omega
  rw [hlength, Nat.add_eq_right, List.sum_eq_zero_iff, List.forall_mem_map]
  simp only [List.count_eq_zero]

end Text

/-! ## Tables as rows -/

theorem isControl_lineFeed : isControl '\n' = true := by decide

theorem Token.table_eq {tokens : List Token} (hne : tokens ≠ []) :
    Token.table false tokens =
      ofLines (Table.row [(6, "Offset")] "Token" :: tokens.map Token.tokenRow) := by
  rw [Token.table, if_neg (by simpa using hne)]
  rfl

theorem Token.lineFeed_mem_tokenRow_iff (token : Token) :
    '\n' ∈ Token.tokenRow token ↔ '\n' ∈ Table.truncate Table.cellWidth token.text :=
  Table.mem_row_iff token.controlsFrom_offset isControl_lineFeed

/-- A token has a line to itself just if there is no line feed in its cell. -/
theorem Token.length_lines_table_iff {tokens : List Token} (hne : tokens ≠ []) :
    (lines (Token.table false tokens)).length = 1 + tokens.length ↔
      ∀ token ∈ tokens, '\n' ∉ Table.truncate Table.cellWidth token.text := by
  have hheader : '\n' ∉ Table.row [(6, "Offset")] "Token" := by decide
  rw [Token.table_eq hne, Nat.add_comm, ← List.length_map (f := Token.tokenRow), ← List.length_cons,
    length_lines_ofLines_iff, List.forall_mem_cons, and_iff_right hheader, List.forall_mem_map]
  simp only [Token.lineFeed_mem_tokenRow_iff]

namespace Query

/-- The rows of the terms, numbered. -/
def termRows (query : Query) : List Text := query.terms.mapIdx fun i term => termRow (i + 1) term

theorem table_eq {query : Query} (hne : query.terms ≠ []) :
    query.table false =
      ofLines (("Combinator: " ++ query.combinator.word) :: [] ::
        tableRow "#" "Neg" "Field" "Op" "Value" :: query.termRows) := by
  rw [table, if_neg (by simpa using hne)]
  simp [ofLines, Table.header, Style.paint, termRows]

theorem lineFeed_mem_termRow_iff {source : Text} {term : Term} (h : term.DrawnFrom source)
    (number : Nat) :
    '\n' ∈ termRow number term ↔ '\n' ∈ Table.truncate Table.cellWidth term.value :=
  Table.mem_row_iff (h.controlsFrom_front number) isControl_lineFeed

theorem forall_mem_termRows_iff {source : Text} {query : Query}
    (h : ∀ term ∈ query.terms, term.DrawnFrom source) :
    (∀ row ∈ query.termRows, '\n' ∉ row) ↔
      ∀ term ∈ query.terms, '\n' ∉ Table.truncate Table.cellWidth term.value := by
  constructor
  · intro hall term hterm
    obtain ⟨i, hi, rfl⟩ := List.getElem_of_mem hterm
    rw [← lineFeed_mem_termRow_iff (h _ hterm) (i + 1)]
    exact hall _ (List.mem_mapIdx.2 ⟨i, hi, rfl⟩)
  · intro hall row hrow
    obtain ⟨i, hi, rfl⟩ := List.mem_mapIdx.1 hrow
    rw [lineFeed_mem_termRow_iff (h _ (List.getElem_mem hi))]
    exact hall _ (List.getElem_mem hi)

/-- A term has a line to itself just if there is no line feed in its cell. -/
theorem length_lines_table_iff {source : Text} {query : Query}
    (h : ∀ term ∈ query.terms, term.DrawnFrom source) (hne : query.terms ≠ []) :
    (lines (query.table false)).length = 3 + query.terms.length ↔
      ∀ term ∈ query.terms, '\n' ∉ Table.truncate Table.cellWidth term.value := by
  have hcombinator : '\n' ∉ ("Combinator: " ++ query.combinator.word : Text) := by
    cases query.combinator <;> decide
  have hheader : '\n' ∉ tableRow "#" "Neg" "Field" "Op" "Value" := by decide
  have hcount : 3 + query.terms.length = (("Combinator: " ++ query.combinator.word) :: [] ::
      tableRow "#" "Neg" "Field" "Op" "Value" :: query.termRows).length := by
    simp only [List.length_cons, termRows, List.length_mapIdx]
    omega
  rw [table_eq hne, hcount, length_lines_ofLines_iff, ← forall_mem_termRows_iff h,
    List.forall_mem_cons, List.forall_mem_cons, List.forall_mem_cons]
  exact ⟨fun hall => hall.2.2.2, fun hrows => ⟨hcombinator, List.not_mem_nil, hheader, hrows⟩⟩

end Query

namespace Diagnostic

/-- The line of a warning in plain text. -/
def warning (diagnostic : Diagnostic) : Text := "warning: " ++ diagnostic.message

theorem table_eq {diagnostics : List Diagnostic} (hne : diagnostics ≠ []) :
    table false diagnostics = ofLines (diagnostics.map warning) := by
  rw [table, if_neg (by simpa using hne)]
  rfl

theorem lineFeed_mem_warning_iff (diagnostic : Diagnostic) :
    '\n' ∈ diagnostic.warning ↔ '\n' ∈ diagnostic.message := by
  have hlabel : '\n' ∉ ("warning: " : Text) := by decide
  exact List.mem_append.trans (or_iff_right hlabel)

/-- A diagnostic has a line to itself just if there is no line feed in its message, and then every
line begins as a warning. -/
theorem length_lines_table_iff {diagnostics : List Diagnostic} (hne : diagnostics ≠ []) :
    ((lines (table false diagnostics)).length = diagnostics.length ∧
        ∀ line ∈ lines (table false diagnostics), "warning: ".toList <+: line) ↔
      ∀ diagnostic ∈ diagnostics, '\n' ∉ diagnostic.message := by
  have hrows : (∀ row ∈ diagnostics.map warning, '\n' ∉ row) ↔
      ∀ diagnostic ∈ diagnostics, '\n' ∉ diagnostic.message := by
    rw [List.forall_mem_map]
    simp only [lineFeed_mem_warning_iff]
  rw [table_eq hne, ← hrows]
  constructor
  · rintro ⟨hlength, -⟩
    rwa [← length_lines_ofLines_iff, List.length_map]
  · intro hall
    rw [lines_ofLines hall, List.length_map, List.forall_mem_map]
    exact ⟨rfl, fun diagnostic _ => List.prefix_append _ diagnostic.message⟩

end Diagnostic

/-! ## Tables of an expression -/

/-- **One line each.** For every expression, the tables of its tokens, terms and diagnostics have a
line for each of them, behind the opening lines, just if there is no line feed in the cells of the
tokens, in the cells of the values, or in the messages. There is none if the expression has none. -/
theorem Table.one_line_each_iff (expression : Text) :
    let tokens := Token.scan expression
    let query := Query.ofText expression
    let diagnostics := Diagnostic.ofQuery query
    (tokens ≠ [] →
      ((lines (Token.table false tokens)).length = 1 + tokens.length ↔
        ∀ token ∈ tokens, '\n' ∉ truncate cellWidth token.text)) ∧
      (query.terms ≠ [] →
        ((lines (query.table false)).length = 3 + query.terms.length ↔
          ∀ term ∈ query.terms, '\n' ∉ truncate cellWidth term.value)) ∧
      (diagnostics ≠ [] →
        (((lines (Diagnostic.table false diagnostics)).length = diagnostics.length ∧
            ∀ line ∈ lines (Diagnostic.table false diagnostics), "warning: ".toList <+: line) ↔
          ∀ diagnostic ∈ diagnostics, '\n' ∉ diagnostic.message)) ∧
      ('\n' ∉ expression →
        (∀ token ∈ tokens, '\n' ∉ truncate cellWidth token.text) ∧
          (∀ term ∈ query.terms, '\n' ∉ truncate cellWidth term.value) ∧
            ∀ diagnostic ∈ diagnostics, '\n' ∉ diagnostic.message) := by
  intro tokens query diagnostics
  have hterms : ∀ term ∈ query.terms, term.DrawnFrom expression :=
    fun term hterm => Term.drawnFrom_of_mem_ofText hterm
  refine ⟨Token.length_lines_table_iff, Query.length_lines_table_iff hterms,
    Diagnostic.length_lines_table_iff, fun hplain => ⟨fun token htoken => ?_,
      fun term hterm => ?_, fun diagnostic hdiagnostic => ?_⟩⟩
  · have hcell := (controlsFrom_of_subset (Token.text_subset htoken)).trans
      (controlsFrom_truncate cellWidth token.text)
    exact hcell.not_mem isControl_lineFeed hplain
  · have hcell := (hterms term hterm).value.trans (controlsFrom_truncate cellWidth term.value)
    exact hcell.not_mem isControl_lineFeed hplain
  · exact (Diagnostic.controlsFrom_message hdiagnostic).not_mem isControl_lineFeed hplain

theorem Table.one_line_each_beside_blank_in_quotes :
    let expression : Text := "-\"a b\" force>3"
    let query := Query.ofText expression
    (lines (Token.table false (Token.scan expression))).length = 3 ∧
      (lines (query.table false)).length = 5 ∧
      (lines (Diagnostic.table false (Diagnostic.ofQuery query))).length = 1 := by
  intro expression query
  have htokens : (Token.scan expression).length = 2 := by decide +kernel
  have hterms : query.terms.length = 2 := by decide +kernel
  have hdiagnostics : (Diagnostic.ofQuery query).length = 1 := by decide +kernel
  obtain ⟨htoken, hterm, hdiagnostic, hplain⟩ := one_line_each_iff expression
  obtain ⟨htokenCells, htermCells, hmessages⟩ := hplain (by decide)
  refine ⟨?_, ?_, ?_⟩
  · rw [(htoken (List.ne_nil_of_length_eq_add_one htokens)).2 htokenCells, htokens]
  · rw [(hterm (List.ne_nil_of_length_eq_add_one hterms)).2 htermCells, hterms]
  · rw [((hdiagnostic (List.ne_nil_of_length_eq_add_one hdiagnostics)).2 hmessages).1, hdiagnostics]

/-- A line feed in quotes makes two lines of each row. -/
theorem Table.quoted_line_feed_makes_lines :
    let expression : Text := "-\"a\nb\""
    let query := Query.ofText expression
    (Token.scan expression).length = 1 ∧ query.terms.length = 1 ∧
      (Diagnostic.ofQuery query).length = 1 ∧
      (lines (Token.table false (Token.scan expression))).length = 3 ∧
      (lines (query.table false)).length = 5 ∧
      lines (Diagnostic.table false (Diagnostic.ofQuery query)) =
        ["warning: negated term '-\"a".toList, "b\"' is ignored".toList] := by
  decide +kernel

end CardCatalog
