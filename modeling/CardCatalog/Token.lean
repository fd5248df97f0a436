import CardCatalog.Text.Blank

/-!
# Tokens

A search expression is cut into tokens at blanks. A double quote opens or closes a quoted span, in
which blanks belong to the token; a span left open runs to the end of the text. The quotes stay in
the token.

* `Cursor.next?` takes one token off the text behind a cursor.
* `Token.scan` takes all of them.
-/

namespace CardCatalog

open Text

/-- A token with the UTF-8 offset of its first character in the expression. -/
structure Token where
  text : Text
  offset : Nat
  deriving DecidableEq, Repr

/-- A place in an expression: what is still to be read, and its UTF-8 offset. -/
structure Cursor where
  offset : Nat
  rest : Text
  deriving DecidableEq, Repr

/-- Splits off the longest start that has no blank outside quotes. The text begins inside quotes if
`quoted` holds. -/
def Token.cut (quoted : Bool) : Text → Text × Text
  | [] => ([], [])
  | c :: rest =>
    if isBlank c && !quoted then ([], c :: rest)
    else
      let (token, after) := cut (quoted != (c == '"')) rest
      (c :: token, after)

namespace Cursor

/-- The next token and the place behind it; none if only blanks are left. -/
def next? (cursor : Cursor) : Option (Token × Cursor) :=
  match cursor.rest.dropWhile isBlank with
  | [] => none
  | c :: rest =>
    let start := cursor.offset + utf8Size (cursor.rest.takeWhile isBlank)
    let (text, after) := Token.cut false (c :: rest)
    some (⟨text, start⟩, ⟨start + utf8Size text, after⟩)

theorem length_cut_snd_le (quoted : Bool) (t : Text) :
    (Token.cut quoted t).2.length ≤ t.length := by
  induction t generalizing quoted with
  | nil => simp [Token.cut]
  | cons c rest ih =>
    simp only [Token.cut]
    split
    · simp
    · exact Nat.le_succ_of_le (ih _)

theorem not_isBlank_of_dropWhile_eq {t rest : Text} {c : Char}
    (h : t.dropWhile isBlank = c :: rest) : isBlank c = false := by
  induction t with
  | nil => simp at h
  | cons d t ih =>
    rw [List.dropWhile_cons] at h
    split at h
    · exact ih h
    · next hd =>
      injection h with hc _
      subst hc
      simpa using hd

/-- Every token takes at least one character. -/
theorem length_rest_lt_of_next? {cursor after : Cursor} {token : Token}
    (h : cursor.next? = some (token, after)) : after.rest.length < cursor.rest.length := by
  unfold next? at h
  split at h
  · simp at h
  · next c rest hd =>
    simp only [Option.some.injEq, Prod.mk.injEq] at h
    obtain ⟨-, rfl⟩ := h
    have hlen : (c :: rest).length ≤ cursor.rest.length := by
      rw [← hd]
      exact (List.dropWhile_sublist isBlank).length_le
    have hc := not_isBlank_of_dropWhile_eq hd
    have hcut := length_cut_snd_le (false != (c == '"')) rest
    simp only [Token.cut, hc, Bool.false_and, Bool.false_eq_true, if_false, List.length_cons] at *
    omega

/-- All tokens behind the cursor. -/
def tokens (cursor : Cursor) : List Token :=
  match _ : cursor.next? with
  | none => []
  | some (token, after) => token :: after.tokens
termination_by cursor.rest.length
decreasing_by exact length_rest_lt_of_next? (by assumption)

/-- The answers to `count` requests for the next token. -/
def steps : Nat → Cursor → List (Option Token)
  | 0, _ => []
  | count + 1, cursor =>
    match cursor.next? with
    | none => none :: steps count cursor
    | some (token, after) => some token :: steps count after

end Cursor

/-- The tokens of an expression. -/
def Token.scan (expression : Text) : List Token := Cursor.tokens ⟨0, expression⟩

end CardCatalog
