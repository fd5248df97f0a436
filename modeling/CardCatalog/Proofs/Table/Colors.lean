import CardCatalog.Proofs.Table.Cells

/-!
# Colors

Colors put escape sequences into a table and nothing else: without them it is the table in plain
text, which has no escape character (`strip_colored_table`). Sequences are taken out from the front
(`strip`), so that a text is passed over unchanged up to its first escape character; whatever comes
behind, a plain text and a sequence of colors come out as they should (`Shows`).
-/

namespace CardCatalog

open Text

/-! ## Sequences -/

namespace Style

/-- The character with which escape sequences begin. -/
def escape : Char := '\x1b'

/-- The length of the sequence `ESC [ digits m` with which the text begins; zero if it begins with
none. -/
def sequenceLength : Text → Nat
  | '\x1b' :: '[' :: rest =>
    let digits := rest.takeWhile Char.isDigit
    if !digits.isEmpty && (rest.drop digits.length).head? == some 'm' then digits.length + 3 else 0
  | _ => 0

/-- The text without its sequences; as many characters of one are still to be passed over. -/
def stripFrom : Nat → Text → Text
  | _, [] => []
  | left + 1, _ :: rest => stripFrom left rest
  | 0, c :: rest =>
    match sequenceLength (c :: rest) with
    | 0 => c :: stripFrom 0 rest
    | left + 1 => stripFrom left rest

/-- The text without the sequences `ESC [ digits m`. -/
def strip (t : Text) : Text := stripFrom 0 t

theorem sequenceLength_of_ne {c : Char} (hc : c ≠ escape) (rest : Text) :
    sequenceLength (c :: rest) = 0 := by
  unfold sequenceLength
  split
  · next heq => exact absurd (List.cons.inj heq).1 hc
  · rfl

/-- A text without an escape character is passed over unchanged, whatever comes behind it. -/
theorem strip_append {t : Text} (h : escape ∉ t) (rest : Text) :
    strip (t ++ rest) = t ++ strip rest := by
  induction t with
  | nil => rfl
  | cons c t ih =>
    obtain ⟨hc, ht⟩ := List.ne_and_not_mem_of_not_mem_cons h
    rw [List.cons_append, strip, stripFrom, sequenceLength_of_ne hc.symm]
    exact congrArg (c :: ·) (ih ht)

example : strip "\x1b[33mwarning\x1b[39m: [1m" = "warning: [1m".toList := by decide

/-- What the emphases of tables start and stop with leaves no trace. -/
theorem strip_sequences : ∀ style ∈ [bold, dimmed, yellow], ∀ rest,
    strip (style.start ++ rest) = strip rest ∧ strip (style.stop ++ rest) = strip rest := by
  simp only [List.forall_mem_cons]
  exact ⟨fun _ => ⟨rfl, rfl⟩, fun _ => ⟨rfl, rfl⟩, fun _ => ⟨rfl, rfl⟩, nofun⟩

/-! ## Texts in color -/

/-- Without its sequences the text in color is the plain one, whatever comes behind it, and the plain
one has no escape character. -/
structure Shows (colored plain : Text) : Prop where
  strip_eq : ∀ rest, strip (colored ++ rest) = plain ++ strip rest
  no_escape : escape ∉ plain

namespace Shows

variable {colored plain more other : Text}

theorem of_plain (h : escape ∉ plain) : Shows plain plain := ⟨strip_append h, h⟩

theorem append (h : Shows colored plain) (hmore : Shows more other) :
    Shows (colored ++ more) (plain ++ other) where
  strip_eq rest := by
    rw [List.append_assoc, h.strip_eq, hmore.strip_eq, List.append_assoc]
  no_escape hmem := (List.mem_append.1 hmem).elim h.no_escape hmore.no_escape

theorem paint {style : Style} (hstyle : style ∈ [bold, dimmed, yellow]) (h : escape ∉ plain) :
    Shows (style.paint true plain) (style.paint false plain) where
  strip_eq rest := by
    show strip (style.start ++ plain ++ style.stop ++ rest) = plain ++ strip rest
    rw [List.append_assoc, List.append_assoc, (strip_sequences style hstyle _).1, strip_append h,
      (strip_sequences style hstyle rest).2]
  no_escape := h

theorem flatMap {α : Type} {l : List α} {f g : α → Text} (h : ∀ a ∈ l, Shows (f a) (g a)) :
    Shows (l.flatMap f) (l.flatMap g) := by
  induction l with
  | nil => exact of_plain List.not_mem_nil
  | cons a l ih =>
    obtain ⟨ha, hl⟩ := List.forall_mem_cons.1 h
    exact ha.append (ih hl)

theorem strip_self (h : Shows colored plain) : strip colored = plain := by
  calc
    strip colored = strip (colored ++ []) := by rw [List.append_nil]
    _ = plain ++ [] := h.strip_eq []
    _ = plain := List.append_nil plain

end Shows

/-! ## Tables -/

theorem isControl_escape : isControl escape = true := by decide

theorem escape_not_mem_ofLines {lines : List Text} (h : ∀ line ∈ lines, escape ∉ line) :
    escape ∉ ofLines lines := by
  intro hmem
  obtain ⟨line, hline, hmem⟩ := List.mem_flatMap.1 hmem
  rcases List.mem_append.1 hmem with hmem | hmem
  · exact h line hline hmem
  · exact absurd hmem (by decide)

theorem shows_header {line : Text} (h : escape ∉ line) :
    Shows (Table.header true line) (Table.header false line) :=
  (Shows.paint (by simp) h).append (Shows.of_plain (by decide))

section Tables

variable {expression : Text} (h : escape ∉ expression)
include h

theorem shows_tokens :
    Shows (Token.table true (Token.scan expression)) (Token.table false (Token.scan expression)) := by
  unfold Token.table
  split
  · exact Shows.of_plain (by decide)
  · refine (shows_header (by decide)).append (Shows.of_plain (escape_not_mem_ofLines ?_))
    intro line hline
    obtain ⟨token, htoken, rfl⟩ := List.mem_map.1 hline
    exact (Token.controlsFrom_tokenRow htoken).not_mem isControl_escape h

theorem shows_terms :
    Shows (Query.table true (Query.ofText expression))
      (Query.table false (Query.ofText expression)) := by
  unfold Query.table
  split
  · exact Shows.of_plain (by decide)
  · have hopening : escape ∉
        ("Combinator: " ++ (Query.ofText expression).combinator.word ++ "\n\n" : Text) := by
      cases (Query.ofText expression).combinator <;> decide
    refine ((Shows.of_plain hopening).append (shows_header (by decide))).append
      (Shows.of_plain (escape_not_mem_ofLines ?_))
    intro line hline
    obtain ⟨i, hi, rfl⟩ := List.mem_mapIdx.1 hline
    have hterm := Term.drawnFrom_of_mem_ofText (List.getElem_mem hi)
    exact (hterm.controlsFrom_termRow (i + 1)).not_mem isControl_escape h

theorem shows_diagnostics :
    Shows (Diagnostic.table true (Diagnostic.ofQuery (Query.ofText expression)))
      (Diagnostic.table false (Diagnostic.ofQuery (Query.ofText expression))) := by
  unfold Diagnostic.table
  split
  · exact Shows.of_plain (by decide)
  · unfold ofLines
    rw [List.flatMap_map, List.flatMap_map]
    refine Shows.flatMap fun diagnostic hdiagnostic => ?_
    have hmessage : escape ∉ diagnostic.message :=
      (Diagnostic.controlsFrom_message hdiagnostic).not_mem isControl_escape h
    exact (((Shows.paint (by simp) (by decide)).append (Shows.of_plain (by decide))).append
      (Shows.of_plain hmessage)).append (Shows.of_plain (by decide))

theorem shows_filter (policy : BoundPolicy) :
    Shows (Filter.table true (Filter.compile policy (Query.ofText expression)))
      (Filter.table false (Filter.compile policy (Query.ofText expression))) := by
  have hterms : ∀ term ∈ (Query.ofText expression).terms, term.DrawnFrom expression :=
    fun term hterm => Term.drawnFrom_of_mem_ofText hterm
  have htext := (Filter.controlsFrom_text hterms policy
    (Query.ofText expression).combinator).not_mem isControl_escape h
  have hrows : ∀ entry ∈ (Filter.compile policy (Query.ofText expression)).entries,
      escape ∉ Filter.constraintRow entry := fun entry hentry =>
    (Filter.controlsFrom_constraintRow hterms policy _ hentry).not_mem isControl_escape h
  generalize Filter.compile policy (Query.ofText expression) = filter at htext hrows
  unfold Filter.table
  split
  · exact Shows.of_plain (by decide)
  · refine (((Shows.of_plain (by decide)).append ?_).append (Shows.of_plain (by decide))).append ?_
    · split
      · exact Shows.of_plain (by decide)
      · exact Shows.paint (by simp) htext
    · split
      · exact Shows.of_plain List.not_mem_nil
      · have hfeed : escape ∉ ['\n'] := by decide
        refine ((Shows.of_plain hfeed).append (shows_header (by decide))).append
          (Shows.of_plain (escape_not_mem_ofLines ?_))
        intro line hline
        obtain ⟨entry, hentry, rfl⟩ := List.mem_map.1 hline
        exact hrows entry hentry

end Tables

/-- The tables of an expression, each with colors on or off. -/
def tablesOf (policy : BoundPolicy) (expression : Text) : List (Bool → Text) :=
  let query := Query.ofText expression
  [fun colors => Filter.table colors (Filter.compile policy query),
   fun colors => Query.table colors query,
   fun colors => Token.table colors (Token.scan expression),
   fun colors => Diagnostic.table colors (Diagnostic.ofQuery query)]

/-- **Colors change nothing but escape sequences.** If there is no escape character in the
expression, there is none in its tables with colors off, and with colors on they are the same tables
once all sequences `ESC [ digits m` are taken out. -/
theorem strip_colored_table {expression : Text} (h : escape ∉ expression) (policy : BoundPolicy) :
    ∀ table ∈ tablesOf policy expression,
      strip (table true) = table false ∧ escape ∉ table false := by
  have hshows : ∀ table ∈ tablesOf policy expression, Shows (table true) (table false) := by
    simp only [tablesOf, List.forall_mem_cons]
    exact ⟨shows_filter h policy, shows_terms h, shows_tokens h, shows_diagnostics h, nofun⟩
  exact fun table htable => ⟨(hshows table htable).strip_self, (hshows table htable).no_escape⟩

/-- What looks like the rest of a sequence is left alone. -/
theorem strip_table_of_brackets :
    let expression : Text := "-[1m [2mforce>3 title:[0m"
    escape ∉ expression ∧ ∀ table ∈ tablesOf .tightest expression,
      strip (table true) = table false ∧ escape ∉ table false := by
  intro expression
  have h : escape ∉ expression := by decide
  exact ⟨h, strip_colored_table h .tightest⟩

end Style

end CardCatalog
