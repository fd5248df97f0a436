import CardCatalog.Proofs.Text.Pieces
import CardCatalog.Proofs.Toml.Quoted
import CardCatalog.Toml.Document

/-!
# Documents line by line

A document of headers and assignments with plain keys is read line by line: `Reads t statements`
says that the rest `t` of a document consists of these statements. What a line adds is said by
`Reads.header` and `Reads.assign`, for every value that is read up to the end of its line
(`ReadsValue`): what a word stands for (`readsValue_word`) and, in any of its forms, each text
(`readsValue_write`).
-/

namespace CardCatalog.Toml

open Text

variable {name rest t : Text}

/-! ## Between the parts -/

/-- The text begins with something to read: no padding, comment or line end. -/
def IsVisible (t : Text) : Prop := ∀ c ∈ t.head?, isPad c = false ∧ c ≠ '#' ∧ c ≠ '\n' ∧ c ≠ '\r'

theorem dropPad_eq_self (ht : ∀ c ∈ t.head?, isPad c = false) : dropPad t = t :=
  dropWhile_append_stop (s := []) (by simp) ht

theorem afterComment?_dropPad (ht : ∀ c ∈ t.head?, isPad c = false ∧ c ≠ '#') :
    afterComment? (dropPad t) = some t := by
  rw [dropPad_eq_self fun c hc => (ht c hc).1, afterComment?.eq_def]
  split
  · exact absurd rfl (ht '#' rfl).2
  · rfl

theorem afterGap?_of_isVisible (ht : IsVisible t) (steps : Nat) :
    afterGap? (steps + 1) t = some t := by
  rw [afterGap?, afterComment?_dropPad fun c hc => ⟨(ht c hc).1, (ht c hc).2.1⟩]
  cases t with
  | nil => rfl
  | cons c t =>
    obtain ⟨-, -, hline, hreturn⟩ := ht c rfl
    simp [hline, hreturn]

theorem afterGap?_newline (steps : Nat) (t : Text) :
    afterGap? (steps + 1) ('\n' :: t) = afterGap? steps t := by
  rw [afterGap?, afterComment?_dropPad (by simp [isPad])]
  rfl

theorem afterLine?_newline (t : Text) : afterLine? ('\n' :: t) = some t := by
  rw [afterLine?, afterComment?_dropPad (by simp [isPad])]
  rfl

/-! ## Keys -/

/-- The name can stand as a key without quotes. -/
structure IsPlainKey (name : Text) : Prop where
  ne_nil : name ≠ []
  all : ∀ c ∈ name, isKeyChar c = true

instance (name : Text) : Decidable (IsPlainKey name) :=
  decidable_of_iff (name ≠ [] ∧ name.all isKeyChar = true)
    ⟨fun h => ⟨h.1, List.all_eq_true.1 h.2⟩, fun h => ⟨h.ne_nil, List.all_eq_true.2 h.all⟩⟩

theorem IsPlainKey.head_ne (h : IsPlainKey name) {c : Char} (hc : isKeyChar c = false) (t : Text) :
    (name ++ t).head? ≠ some c := by
  obtain ⟨d, name, rfl⟩ := List.exists_cons_of_ne_nil h.ne_nil
  rintro ⟨⟩
  rw [h.all c List.mem_cons_self] at hc
  cases hc

theorem IsPlainKey.isVisible (h : IsPlainKey name) (t : Text) : IsVisible (name ++ t) := by
  intro c hc
  have hne (d : Char) (hd : isKeyChar d = false) : c ≠ d := by
    rintro rfl
    exact h.head_ne hd t hc
  have hpad : isPad c = false := by
    simp [isPad, hne ' ' (by decide), hne '\t' (by decide)]
  exact ⟨hpad, hne _ (by decide), hne _ (by decide), hne _ (by decide)⟩

theorem readKey?_plain (h : IsPlainKey name) (hrest : ∀ c ∈ rest.head?, isKeyChar c = false) :
    readKey? (name ++ rest) = some (name, rest) := by
  have hshort : Quoted.readShort? (name ++ rest) = none := by
    rw [Quoted.readShort?.eq_def]
    split
    · next heq => exact absurd (congrArg List.head? heq) (h.head_ne (by decide) rest)
    · next heq => exact absurd (congrArg List.head? heq) (h.head_ne (by decide) rest)
    · rfl
  rw [readKey?, hshort, takeWhile_append_stop h.all hrest, dropWhile_append_stop h.all hrest]
  simp [h.ne_nil]

/-- A key of one part is read with the padding behind it. -/
theorem readKeys?_plain (h : IsPlainKey name) (hrest : ∀ c ∈ rest.head?, isKeyChar c = false)
    (hdot : (dropPad rest).head? ≠ some '.') (steps : Nat) :
    readKeys? (steps + 1) (name ++ rest) = some ([name], dropPad rest) := by
  have hparts : readParts? (steps + 1) (name ++ rest) = some ([name], dropPad rest) := by
    rw [readParts?, readKey?_plain h hrest]
    simp only [Option.bind_eq_bind, Option.bind_some]
    split
    · next heq => exact absurd (congrArg List.head? heq) hdot
    · rfl
  rw [readKeys?, hparts]
  rfl

/-! ## Values -/

/-- At the end of a line, the value is read from what is written for it. -/
structure ReadsValue (written : Text) (value : Value) : Prop where
  head : ∀ c ∈ written.head?, isPad c = false
  read : ∀ steps rest, readValue? (depthLimit - 1) (steps + 1) (written ++ '\n' :: rest) =
    some (value, '\n' :: rest)

/-- Words stand for the same value wherever a line ends behind them. -/
theorem readsValue_word {word : Text} {value : Value} (hword : Scalar.ofWord? word = some value)
    (hne : word ≠ []) (hall : word.all Scalar.isWordChar = true) : ReadsValue word value where
  head := by
    intro c hc
    have := List.all_eq_true.1 hall c (List.mem_of_mem_head? hc)
    simp only [isPad, Bool.or_eq_false_iff, beq_eq_false_iff_ne]
    constructor <;> rintro rfl <;> revert this <;> decide
  read steps rest := by
    have hchars := List.all_eq_true.1 hall
    have hstop : ∀ c ∈ ('\n' :: rest).head?, Scalar.isWordChar c = false := by
      rintro c ⟨⟩
      decide
    have hread : Scalar.read? (word ++ '\n' :: rest) = some (value, '\n' :: rest) := by
      rw [Scalar.read?, Scalar.readWord, takeWhile_append_stop hchars hstop,
        dropWhile_append_stop hchars hstop]
      simp [hword]
    have hhead (c : Char) (hc : Scalar.isWordChar c = false) (u : Text) :
        word ++ '\n' :: rest ≠ c :: u := by
      obtain ⟨d, word, rfl⟩ := List.exists_cons_of_ne_nil hne
      rintro ⟨⟩
      rw [hchars c List.mem_cons_self] at hc
      cases hc
    rw [readValue?, hread]
    · exact fun u heq => hhead '"' (by decide) u heq
    · exact fun u heq => hhead '\x27' (by decide) u heq
    · exact fun u _ heq _ => hhead '[' (by decide) u heq
    · exact fun u _ heq _ => hhead '\x7b' (by decide) u heq

/-- A text is written behind a quote of either kind. -/
theorem exists_write_eq_cons (t : Text) :
    ∃ q written, Quoted.write t = q :: written ∧ (q = '"' ∨ q = '\x27') := by
  rw [Quoted.write]
  cases Quoted.Form.ofText t with
  | basic => exact ⟨_, _, rfl, Or.inl rfl⟩
  | literal => exact ⟨_, _, rfl, Or.inr rfl⟩
  | longBasic => exact ⟨_, _, rfl, Or.inl rfl⟩
  | longLiteral => exact ⟨_, _, rfl, Or.inr rfl⟩

theorem readsValue_write (t : Text) : ReadsValue (Quoted.write t) (.text t) where
  head := by
    obtain ⟨q, written, hwrite, rfl | rfl⟩ := exists_write_eq_cons t
    all_goals
      rw [hwrite]
      rintro c ⟨⟩
      decide
  read steps rest := by
    have hread : Quoted.read? (Quoted.write t ++ '\n' :: rest) = some (t, '\n' :: rest) := by
      refine Quoted.read?_write ?_ t
      rintro c ⟨⟩
      decide
    obtain ⟨q, written, hwrite, rfl | rfl⟩ := exists_write_eq_cons t
    all_goals
      rw [hwrite, List.cons_append] at hread ⊢
      rw [readValue?, hread]
      rfl

/-! ## Lines -/

/-- The rest of a document consists of these statements. -/
def Reads (t : Text) (statements : List Statement) : Prop :=
  ∀ steps, t.length < steps → readStatements? steps t = some statements

theorem reads_nil : Reads [] [] := by
  intro steps hsteps
  obtain ⟨steps, rfl⟩ := Nat.exists_eq_succ_of_ne_zero (Nat.ne_of_gt hsteps)
  rfl

/-- A line adds its statement to those of the rest. -/
theorem Reads.line {line : Text} {statement : Statement} {statements : List Statement}
    (hvisible : IsVisible (line ++ '\n' :: rest))
    (hread : ∀ steps,
      readStatement? (steps + 1) (line ++ '\n' :: rest) = some (statement, '\n' :: rest))
    (h : Reads rest statements) : Reads (line ++ '\n' :: rest) (statement :: statements) := by
  intro steps hsteps
  rw [List.length_append, List.length_cons] at hsteps
  obtain ⟨steps, rfl⟩ := Nat.exists_eq_succ_of_ne_zero (Nat.ne_of_gt (Nat.zero_lt_of_lt hsteps))
  rw [readStatements?, afterGap?_of_isVisible hvisible]
  obtain ⟨c, u, hcons⟩ : ∃ c u, line ++ '\n' :: rest = c :: u :=
    List.exists_cons_of_ne_nil (by simp)
  rw [hcons] at hread ⊢
  simp [hread, afterLine?_newline, h steps (by omega)]

/-- An empty line adds nothing. -/
theorem Reads.newline {statements : List Statement} (hvisible : IsVisible t)
    (h : Reads t statements) : Reads ('\n' :: t) statements := by
  intro steps hsteps
  rw [List.length_cons] at hsteps
  obtain ⟨steps, rfl⟩ := Nat.exists_eq_add_of_le' (show 2 ≤ steps by omega)
  rw [← h (steps + 2) (by omega), readStatements?.eq_def, readStatements?.eq_def]
  simp only [afterGap?_newline, afterGap?_of_isVisible hvisible]

theorem Reads.header {statements : List Statement} (hname : IsPlainKey name)
    (h : Reads rest statements) :
    Reads ('[' :: name ++ [']'] ++ '\n' :: rest) (.header [name] :: statements) := by
  refine Reads.line (by rintro c ⟨⟩; decide) (fun steps => ?_) h
  have hpad : dropPad (name ++ ']' :: '\n' :: rest) = name ++ ']' :: '\n' :: rest :=
    dropPad_eq_self fun c hc => (hname.isVisible _ c hc).1
  have hkeys : readKeys? (steps + 1) (name ++ ']' :: '\n' :: rest) =
      some ([name], ']' :: '\n' :: rest) :=
    readKeys?_plain hname (by rintro c ⟨⟩; decide) (by simp [dropPad, isPad]) steps
  rw [List.append_assoc, List.cons_append, List.singleton_append, readStatement?.eq_def]
  split
  · next heq =>
    exact absurd (congrArg List.head? (List.cons.inj heq).2) (hname.head_ne (by decide) _)
  · next heq =>
    obtain ⟨-, rfl⟩ := List.cons.inj heq
    rw [hpad, hkeys]
    rfl
  · next heq => exact absurd rfl (heq _)

theorem Reads.assign {statements : List Statement} {written : Text} {value : Value}
    (hname : IsPlainKey name) (hvalue : ReadsValue written value) (h : Reads rest statements) :
    Reads (name ++ " = " ++ written ++ '\n' :: rest) (.assign [name] value :: statements) := by
  refine Reads.line (by simpa using hname.isVisible _) (fun steps => ?_) h
  have hpad : dropPad (' ' :: (written ++ '\n' :: rest)) = written ++ '\n' :: rest := by
    refine dropPad_eq_self (t := written ++ '\n' :: rest) fun c hc => ?_
    cases written with
    | nil =>
      cases hc
      rfl
    | cons d written => exact hvalue.head c hc
  have hkeys : readKeys? (steps + 1) (name ++ (" = " ++ (written ++ '\n' :: rest))) =
      some ([name], '=' :: ' ' :: (written ++ '\n' :: rest)) :=
    readKeys?_plain hname (by rintro c ⟨⟩; decide) (by simp [dropPad, isPad]) steps
  have hbracket (u : Text) : name ++ (" = " ++ (written ++ '\n' :: rest)) ≠ '[' :: u := fun heq =>
    hname.head_ne (by decide) _ (congrArg List.head? heq)
  rw [List.append_assoc, List.append_assoc, readStatement?.eq_def]
  split
  · next heq => exact absurd heq (hbracket _)
  · next heq => exact absurd heq (hbracket _)
  · rw [hkeys]
    simp [hpad, hvalue.read]

/-- A document without a byte order mark has the statements of its lines. -/
theorem Reads.statements?_eq {statements : List Statement} (hmark : t.head? ≠ some '\uFEFF')
    (h : Reads t statements) : statements? t = some statements := by
  rw [statements?]
  · exact h _ (by omega)
  · exact fun u heq => hmark (congrArg List.head? heq)

end CardCatalog.Toml
