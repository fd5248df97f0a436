import CardCatalog.Json
import CardCatalog.Proofs.Text.Pieces
import Mathlib.Data.List.Infix
import Mathlib.Logic.Function.Defs

/-!
# The indented form is unambiguous

What is written for a value shows where it ends: if two values with some text behind each are
written alike, they are one value with one text behind it (`Json.delimits_render`). Only the digits
of a number do not say whether they are all, so nothing that begins with a digit may follow. Hence
different values have different indented forms (`Json.pretty_injective`).

Lists and objects share one argument (`bracketed_append_inj`): behind an item stands a comma or the
new line in front of the closing bracket.
-/

namespace CardCatalog

namespace Text

/-! ## Numbers -/

/-- No digit stands at the start. -/
def EndsNumber (t : Text) : Prop := ∀ c ∈ t.head?, c.isDigit = false

theorem endsNumber_nil : EndsNumber [] := fun _ hc => nomatch hc

theorem endsNumber_cons {c : Char} (h : c.isDigit = false) (t : Text) : EndsNumber (c :: t) := by
  rintro d hd
  obtain rfl : c = d := by simpa using hd
  exact h

variable {r s : Text}

theorem isDigit_of_mem_ofNat {n : Nat} {c : Char} (h : c ∈ ofNat n) : c.isDigit = true :=
  Nat.isDigit_of_mem_toDigits (by decide) (by decide) h

theorem ofNat_append_inj {m n : Nat} (hr : EndsNumber r) (hs : EndsNumber s)
    (h : ofNat m ++ r = ofNat n ++ s) : m = n ∧ r = s := by
  have hdigits := congrArg (List.takeWhile Char.isDigit) h
  rw [takeWhile_append_stop (fun _ => isDigit_of_mem_ofNat) hr,
    takeWhile_append_stop (fun _ => isDigit_of_mem_ofNat) hs] at hdigits
  have hvalue := congrArg (Nat.ofDigitChars 10 · 0) hdigits
  simp only [ofNat, Nat.ofDigitChars_ten_toDigits] at hvalue
  subst hvalue
  exact ⟨rfl, List.append_cancel_left h⟩

theorem exists_ofNat_eq_cons (n : Nat) : ∃ c rest, ofNat n = c :: rest ∧ c.isDigit = true := by
  obtain ⟨c, rest, hn⟩ : ∃ c rest, ofNat n = c :: rest :=
    List.exists_cons_of_ne_nil Nat.toDigits_ne_nil
  exact ⟨c, rest, hn, isDigit_of_mem_ofNat (hn ▸ List.mem_cons_self)⟩

theorem ofInt_append_inj {m n : Int} (hr : EndsNumber r) (hs : EndsNumber s)
    (h : ofInt m ++ r = ofInt n ++ s) : m = n ∧ r = s := by
  -- a number of digits does not begin with a sign
  have hsign : ∀ (k : Nat) (t u : Text), ofNat k ++ t ≠ '-' :: u := by
    intro k t u heq
    obtain ⟨c, rest, hk, hc⟩ := exists_ofNat_eq_cons k
    rw [hk] at heq
    rw [(List.cons.inj heq).1] at hc
    exact absurd hc (by decide)
  cases m with
  | ofNat m =>
    cases n with
    | ofNat n =>
      obtain ⟨rfl, hrest⟩ := ofNat_append_inj hr hs h
      exact ⟨rfl, hrest⟩
    | negSucc n => exact absurd h (hsign m r _)
  | negSucc m =>
    cases n with
    | ofNat n => exact absurd h.symm (hsign n s _)
    | negSucc n =>
      obtain ⟨hsucc, hrest⟩ := ofNat_append_inj hr hs (List.cons.inj h).2
      obtain rfl := Nat.succ.inj hsucc
      exact ⟨rfl, hrest⟩

end Text

namespace Json

open Text

variable {r s : Text}

/-! ## Strings -/

/-- The characters that do not stand for themselves inside a string. -/
def escaped : List Char := (List.range 0x20).map Char.ofNat ++ ['"', '\\']

theorem escape_of_not_mem {c : Char} (h : c ∉ escaped) : escape c = [c] := by
  have hcontrol : ¬ c.toNat < 0x20 := fun hlt => h <|
    List.mem_append_left _ (List.mem_map.2 ⟨c.toNat, by simpa using hlt, by simp⟩)
  have hne : ∀ d ∈ escaped, c ≠ d := fun d hd heq => h (heq ▸ hd)
  simp [escape, hcontrol, hne '"' (by decide), hne '\\' (by decide), hne '\x08' (by decide),
    hne '\x0c' (by decide), hne '\n' (by decide), hne '\r' (by decide), hne '\t' (by decide)]

theorem head?_escape (c : Char) :
    (escape c).head? = some (if c ∈ escaped then '\\' else c) := by
  have key : escaped.all (fun c => (escape c).head? == some '\\') = true := by decide +kernel
  split
  · next h => exact eq_of_beq (List.all_eq_true.1 key c h)
  · next h => rw [escape_of_not_mem h]; rfl

/-- No escape is the start of another. -/
theorem eq_of_escape_starts {c d : Char} (h : escape c <+: escape d) : c = d := by
  have key : escaped.all (fun c => escaped.all fun d =>
      !(escape c).isPrefixOf (escape d) || c == d) = true := by
    decide +kernel
  have hhead : (escape c).head? = (escape d).head? := by
    obtain ⟨rest, hrest⟩ := h
    rw [← hrest, List.head?_append, head?_escape]
    rfl
  rw [head?_escape, head?_escape, Option.some.injEq] at hhead
  have hbackslash : '\\' ∈ escaped := by decide
  by_cases hc : c ∈ escaped
  · by_cases hd : d ∈ escaped
    · have hpair := List.all_eq_true.1 (List.all_eq_true.1 key c hc) d hd
      rw [List.isPrefixOf_iff_prefix.2 h] at hpair
      exact eq_of_beq hpair
    · rw [if_pos hc, if_neg hd] at hhead
      exact absurd (hhead ▸ hbackslash) hd
  · by_cases hd : d ∈ escaped
    · rw [if_neg hc, if_pos hd] at hhead
      exact absurd (hhead ▸ hbackslash) hc
    · rwa [if_neg hc, if_neg hd] at hhead

theorem escape_append_inj {c d : Char} (h : escape c ++ r = escape d ++ s) : c = d ∧ r = s := by
  have hstart := List.prefix_or_prefix_of_prefix (List.prefix_append (escape c) r)
    (h ▸ List.prefix_append (escape d) s)
  obtain rfl : c = d :=
    hstart.elim eq_of_escape_starts fun hstart => (eq_of_escape_starts hstart).symm
  exact ⟨rfl, List.append_cancel_left h⟩

theorem flatMap_escape_append_inj {t u : Text}
    (h : t.flatMap escape ++ '"' :: r = u.flatMap escape ++ '"' :: s) : t = u ∧ r = s := by
  -- the closing quote is taken for no character of the string
  have hquote : ∀ (c : Char) (x y : Text), escape c ++ x ≠ '"' :: y := by
    intro c x y heq
    have hhead := congrArg List.head? heq
    rw [List.head?_append, head?_escape] at hhead
    by_cases hc : c ∈ escaped
    · simp [hc] at hhead
    · obtain rfl : c = '"' := by simpa [hc] using hhead
      exact hc (by decide)
  induction t generalizing u with
  | nil =>
    cases u with
    | nil => exact ⟨rfl, (List.cons.inj h).2⟩
    | cons d u =>
      rw [List.flatMap_cons, List.append_assoc] at h
      exact absurd h.symm (hquote d _ _)
  | cons c t ih =>
    rw [List.flatMap_cons, List.append_assoc] at h
    cases u with
    | nil => exact absurd h (hquote c _ _)
    | cons d u =>
      rw [List.flatMap_cons, List.append_assoc] at h
      obtain ⟨rfl, hrest⟩ := escape_append_inj h
      obtain ⟨rfl, hbehind⟩ := ih hrest
      exact ⟨rfl, hbehind⟩

theorem quote_append_inj {t u : Text} (h : quote t ++ r = quote u ++ s) : t = u ∧ r = s := by
  simp only [quote, List.cons_append, List.append_assoc, List.nil_append] at h
  exact flatMap_escape_append_inj (List.cons.inj h).2

/-! ## Values -/

/-- Induction over a value and the values in it. -/
theorem induction {P : Json → Prop} (null : P null) (bool : ∀ value, P (bool value))
    (int : ∀ value, P (int value)) (text : ∀ value, P (text value))
    (list : ∀ items, (∀ item ∈ items, P item) → P (list items))
    (object : ∀ members, (∀ member ∈ members, P member.2) → P (object members)) :
    ∀ value, P value
  | .null => null
  | .bool value => bool value
  | .int value => int value
  | .text value => text value
  | .list items => list items fun item _ => induction null bool int text list object item
  | .object members =>
    object members fun member _ => induction null bool int text list object member.2
termination_by value => sizeOf value
decreasing_by
  · have := List.sizeOf_lt_of_mem ‹item ∈ items›
    simp only [Json.list.sizeOf_spec]
    omega
  · have := List.sizeOf_lt_of_mem ‹member ∈ members›
    have : sizeOf member.2 < sizeOf member := by cases member; simp only [Prod.mk.sizeOf_spec]; omega
    simp only [Json.object.sizeOf_spec]
    omega

/-- The first character of a written value, one digit for all that begin a number. -/
def opening : Json → Char
  | .null => 'n'
  | .bool value => if value then 't' else 'f'
  | .int _ => '0'
  | .text _ => '"'
  | .list _ => '['
  | .object _ => '\x7b'

/-- The character, or the one digit if it begins a number. -/
def firstOf (c : Char) : Char := if c.isDigit || c == '-' then '0' else c

/-- Of one constructor; numbers, texts, lists and objects may differ. -/
inductive SameKind : Json → Json → Prop
  | null : SameKind .null .null
  | bool (value : Bool) : SameKind (.bool value) (.bool value)
  | int (m n : Int) : SameKind (.int m) (.int n)
  | text (t u : Text) : SameKind (.text t) (.text u)
  | list (items others : List Json) : SameKind (.list items) (.list others)
  | object (members others : List (Text × Json)) : SameKind (.object members) (.object others)

theorem sameKind_of_opening_eq {v w : Json} (h : v.opening = w.opening) : SameKind v w := by
  cases v <;> cases w <;> grind [SameKind, opening]

theorem head?_render (level : Nat) (value : Json) :
    (render level value).head?.map firstOf = some value.opening := by
  cases value with
  | int n =>
    rw [render]
    cases n with
    | ofNat n =>
      obtain ⟨c, rest, hn, hc⟩ := exists_ofNat_eq_cons n
      simp [ofInt, hn, firstOf, hc, opening]
    | negSucc n => rfl
  | bool value => cases value <;> rfl
  | list items => cases items <;> rfl
  | object members => cases members <;> rfl
  | _ => rfl

theorem head?_render_append (level : Nat) (value : Json) (rest : Text) :
    (render level value ++ rest).head?.map firstOf = some value.opening := by
  have hvalue := head?_render level value
  cases hfirst : (render level value).head? with
  | none => simp [hfirst] at hvalue
  | some c => rw [List.head?_append, hfirst, ← hvalue, hfirst]; rfl

/-- **The first character tells the constructor.** -/
theorem sameKind_of_render {level : Nat} {v w : Json}
    (h : render level v ++ r = render level w ++ s) : SameKind v w := by
  have hopening := head?_render_append level v r
  rw [h, head?_render_append, Option.some.injEq] at hopening
  exact sameKind_of_opening_eq hopening.symm

/-- What is written for `a` shows where it ends, whatever follows that does not begin with a
digit. -/
def Delimits {α : Type} (write : α → Text) (a : α) : Prop :=
  ∀ {b : α} {r s : Text}, EndsNumber r → EndsNumber s → write a ++ r = write b ++ s →
    a = b ∧ r = s

section Bracketed

variable {α : Type} {write : α → Text}

/-- The items of a list, each on a new line behind a comma. -/
def rows (level : Nat) (write : α → Text) (items : List α) : Text :=
  items.flatMap fun item => ',' :: newLine level ++ write item

/-- The items of a list with the bracket behind them. -/
def bracketed (level : Nat) (write : α → Text) (close : Char) : List α → Text
  | [] => [close]
  | item :: items =>
    newLine (level + 1) ++ write item ++ rows (level + 1) write items ++ newLine level ++ [close]

theorem endsNumber_rows_append (level : Nat) (items : List α) (hr : r.head? = some '\n') :
    EndsNumber (rows level write items ++ r) := by
  cases items with
  | nil =>
    obtain ⟨rest, rfl⟩ := List.head?_eq_some_iff.1 hr
    exact endsNumber_cons (by decide) rest
  | cons item items => exact endsNumber_cons (by decide) _

theorem rows_append_inj {level : Nat} {xs ys : List α} (hxs : ∀ x ∈ xs, Delimits write x)
    (hr : r.head? = some '\n') (hs : s.head? = some '\n')
    (h : rows level write xs ++ r = rows level write ys ++ s) : xs = ys ∧ r = s := by
  induction xs generalizing ys with
  | nil =>
    cases ys with
    | nil => exact ⟨rfl, h⟩
    | cons y ys =>
      rw [show r = rows level write (y :: ys) ++ s from h] at hr
      cases hr
  | cons x xs ih =>
    cases ys with
    | nil =>
      rw [show s = rows level write (x :: xs) ++ r from h.symm] at hs
      cases hs
    | cons y ys =>
      simp only [rows, List.flatMap_cons, List.cons_append, List.append_assoc] at h
      have hrow := List.append_cancel_left (List.cons.inj h).2
      obtain ⟨hx, hxs⟩ := List.forall_mem_cons.1 hxs
      obtain ⟨rfl, hrest⟩ := hx (endsNumber_rows_append level xs hr)
        (endsNumber_rows_append level ys hs) hrow
      obtain ⟨rfl, hbehind⟩ := ih hxs hrest
      exact ⟨rfl, hbehind⟩

/-- **Items between brackets are told apart if each is.** -/
theorem bracketed_append_inj {level : Nat} {close : Char} (hclose : close ≠ '\n') {xs ys : List α}
    (hxs : ∀ x ∈ xs, Delimits write x)
    (h : bracketed level write close xs ++ r = bracketed level write close ys ++ s) :
    xs = ys ∧ r = s := by
  cases xs with
  | nil =>
    cases ys with
    | nil => exact ⟨rfl, (List.cons.inj h).2⟩
    | cons y ys => exact absurd (List.cons.inj h).1 hclose
  | cons x xs =>
    cases ys with
    | nil => exact absurd (List.cons.inj h).1.symm hclose
    | cons y ys =>
      -- with a comma in front, the first item is one row more
      have hrows : rows (level + 1) write (x :: xs) ++ (newLine level ++ close :: r) =
          rows (level + 1) write (y :: ys) ++ (newLine level ++ close :: s) := by
        simpa [rows, bracketed] using h
      obtain ⟨hitems, hend⟩ := rows_append_inj hxs rfl rfl hrows
      exact ⟨hitems, (List.cons.inj (List.append_cancel_left hend)).2⟩

end Bracketed

theorem renderItems_eq (level : Nat) (items : List Json) :
    renderItems level items = rows level (render level) items := by
  induction items with
  | nil => rfl
  | cons item items ih => simp [renderItems, ih, rows]

/-- A name, a colon and a value. -/
def renderMember (level : Nat) (member : Text × Json) : Text :=
  quote member.1 ++ ": " ++ render level member.2

theorem renderMembers_eq (level : Nat) (members : List (Text × Json)) :
    renderMembers level members = rows level (renderMember level) members := by
  induction members with
  | nil => rfl
  | cons member members ih => simp [renderMembers, ih, rows, renderMember]

theorem render_list (level : Nat) (items : List Json) :
    render level (.list items) = '[' :: bracketed level (render (level + 1)) ']' items := by
  cases items with
  | nil => rfl
  | cons item items => simp [render, bracketed, renderItems_eq]

theorem render_object (level : Nat) (members : List (Text × Json)) :
    render level (.object members) =
      '\x7b' :: bracketed level (renderMember (level + 1)) '\x7d' members := by
  cases members with
  | nil => rfl
  | cons member members => simp [render, bracketed, renderMembers_eq, renderMember]

theorem delimits_renderMember {level : Nat} {member : Text × Json}
    (h : Delimits (render level) member.2) : Delimits (renderMember level) member := by
  intro other r s hr hs heq
  simp only [renderMember, List.append_assoc] at heq
  obtain ⟨hname, hrest⟩ := quote_append_inj heq
  obtain ⟨hvalue, hbehind⟩ := h hr hs (List.append_cancel_left hrest)
  exact ⟨Prod.ext hname hvalue, hbehind⟩

/-- **A written value shows where it ends.** -/
theorem delimits_render (value : Json) (level : Nat) : Delimits (render level) value := by
  induction value using Json.induction generalizing level with
  | null =>
    intro w r s _ _ h
    cases sameKind_of_render h
    exact ⟨rfl, List.append_cancel_left h⟩
  | bool value =>
    intro w r s _ _ h
    cases sameKind_of_render h
    exact ⟨rfl, List.append_cancel_left h⟩
  | int m =>
    intro w r s hr hs h
    cases sameKind_of_render h with
    | int _ n =>
      rw [render, render] at h
      obtain ⟨rfl, hrest⟩ := ofInt_append_inj hr hs h
      exact ⟨rfl, hrest⟩
  | text t =>
    intro w r s _ _ h
    cases sameKind_of_render h with
    | text _ u =>
      rw [render, render] at h
      obtain ⟨rfl, hrest⟩ := quote_append_inj h
      exact ⟨rfl, hrest⟩
  | list items ih =>
    intro w r s _ _ h
    cases sameKind_of_render h with
    | list _ others =>
      rw [render_list, render_list] at h
      obtain ⟨rfl, hrest⟩ := bracketed_append_inj (by decide)
        (fun item hitem => ih item hitem (level + 1)) (List.cons.inj h).2
      exact ⟨rfl, hrest⟩
  | object members ih =>
    intro w r s _ _ h
    cases sameKind_of_render h with
    | object _ others =>
      rw [render_object, render_object] at h
      obtain ⟨rfl, hrest⟩ := bracketed_append_inj (by decide)
        (fun member hmember => delimits_renderMember (ih member hmember (level + 1)))
        (List.cons.inj h).2
      exact ⟨rfl, hrest⟩

/-- **Different values are written differently.** -/
theorem pretty_injective : Function.Injective pretty := by
  intro v w h
  have hrender : render 0 v ++ [] = render 0 w ++ [] := congrArg (· ++ []) h
  exact (delimits_render v 0 endsNumber_nil endsNumber_nil hrender).1

end Json

end CardCatalog
