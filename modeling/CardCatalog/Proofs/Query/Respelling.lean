import CardCatalog.Proofs.Query.Composition
import CardCatalog.Proofs.Query.RoundTrip
import CardCatalog.Diagnostic
import Mathlib.Data.List.Forall2

/-!
# The spelling of terms

A field has several names, in large and small letters, and some operators have two spellings. A
token in which they are replaced by others for the same field and operator spells the same term
(`Respelt.ofToken_eq`). For a whole expression this is not enough: two tokens count as one if they
agree letter for letter, and respelling can make two of one or one of two. Where it does not, the
query is the same, and with it the filter and the diagnostics (`ofText_eq_of_respelt`).

The tokens of both expressions are the two sides of one list of pairs. Words that join are left out
of the pairs, and so are repetitions, and only then a side is taken (`termTokens_map`).
-/

namespace CardCatalog

open Text Token

namespace Term

open Operator

/-! ## Single tokens -/

/-- The text spells a field, given by its normalized name, an operator and a value. -/
def Spells (body name : Text) (operator : Operator) (value : Text) : Prop :=
  ∃ written symbol, Splits body written symbol value ∧ Field.normalize written = name ∧
    ofSymbol? symbol = some operator

/-- The tokens agree letter for letter, or they spell the same field, operator and value, both with
a dash or both without. -/
inductive Respelt : Text → Text → Prop
  | same (token : Text) : Respelt token token
  | plain {body other name value : Text} {operator : Operator}
      (hbody : Spells body name operator value) (hother : Spells other name operator value) :
      Respelt body other
  | negated {body other name value : Text} {operator : Operator}
      (hbody : Spells body name operator value) (hother : Spells other name operator value) :
      Respelt ('-' :: body) ('-' :: other)

theorem Spells.ofBody_eq {body name value : Text} {operator : Operator}
    (h : Spells body name operator value) (negated : Bool) :
    ofBody body negated = onField (Field.ofCanonical name) operator value negated := by
  obtain ⟨written, symbol, hsplits, rfl, hoperator⟩ := h
  exact ofBody_of_splits hsplits hoperator negated

/-- A token that spells a field, an operator and a value has no dash in front of them. -/
theorem Spells.ofToken_eq {body name value : Text} {operator : Operator}
    (h : Spells body name operator value) :
    ofToken body = onField (Field.ofCanonical name) operator value false := by
  have hdash : body.head? ≠ some '-' := by
    obtain ⟨written, symbol, hsplits, -⟩ := h
    exact hsplits.head?_ne_dash
  rw [ofToken_of_head?_ne hdash, h.ofBody_eq]

theorem Spells.isJoiningWord_eq_false {body name value : Text} {operator : Operator}
    (h : Spells body name operator value) : Query.isJoiningWord body = false := by
  obtain ⟨written, symbol, hsplits, -⟩ := h
  exact hsplits.isJoiningWord_eq_false

/-- **A token spelt differently spells the same term.** -/
theorem Respelt.ofToken_eq {token other : Text} (h : Respelt token other) :
    ofToken token = ofToken other := by
  cases h with
  | same => rfl
  | plain hbody hother => rw [hbody.ofToken_eq, hother.ofToken_eq]
  | negated hbody hother => exact (hbody.ofBody_eq true).trans (hother.ofBody_eq true).symm

/-- Joining words have one spelling. -/
theorem Respelt.eq_or_not_joining {token other : Text} (h : Respelt token other) :
    token = other ∨ Query.isJoiningWord token = false ∧ Query.isJoiningWord other = false := by
  cases h with
  | same => exact Or.inl rfl
  | plain hbody hother =>
    exact Or.inr ⟨hbody.isJoiningWord_eq_false, hother.isJoiningWord_eq_false⟩
  | negated =>
    exact Or.inr ⟨isJoiningWord_eq_false_of_mem List.mem_cons_self (Or.inl rfl),
      isJoiningWord_eq_false_of_mem List.mem_cons_self (Or.inl rfl)⟩

theorem Respelt.isJoiningWord_eq {token other : Text} (h : Respelt token other) :
    Query.isJoiningWord token = Query.isJoiningWord other := by
  rcases h.eq_or_not_joining with rfl | ⟨htoken, hother⟩
  · rfl
  · rw [htoken, hother]

theorem Respelt.isOr_eq {token other : Text} (h : Respelt token other) :
    Query.isOr token = Query.isOr other := by
  rcases h.eq_or_not_joining with rfl | ⟨htoken, hother⟩
  · rfl
  · rw [Query.isOr_eq_false_of_not_joining htoken, Query.isOr_eq_false_of_not_joining hother]

end Term

namespace Query

open Term

/-! ## Lists of tokens -/

/-- The tokens that become terms, where tokens are the images of other things: the images of those
that stay, if no two of them have one image. -/
theorem termTokens_map {α : Type*} [BEq α] [LawfulBEq α] {token : α → Text} {l : List α}
    {joins : α → Bool} (hjoins : ∀ a ∈ l, isJoiningWord (token a) = joins a)
    (htoken : ∀ a ∈ l, ∀ b ∈ l, token a = token b → a = b) :
    termTokens (l.map token) = (l.filter fun a => !joins a).eraseDups.map token := by
  have hfilter : (l.map token).filter (fun t => !isJoiningWord t) =
      (l.filter fun a => !joins a).map token := by
    rw [List.filter_map]
    refine congrArg (List.map token) (List.filter_congr fun a ha => ?_)
    rw [Function.comp_apply, hjoins a ha]
  rw [termTokens, hfilter]
  exact eraseDups_map fun a ha b hb =>
    htoken a (List.mem_filter.1 ha).1 b (List.mem_filter.1 hb).1

/-- The two sides of a list of pairs spell one query. -/
theorem ofTokens_fst_eq_snd {pairs : List (Text × Text)}
    (hrespelt : ∀ p ∈ pairs, Respelt p.1 p.2)
    (hequal : ∀ p ∈ pairs, ∀ q ∈ pairs, p.1 = q.1 ↔ p.2 = q.2) :
    ofTokens (pairs.map Prod.fst) = ofTokens (pairs.map Prod.snd) := by
  let kept := (pairs.filter fun p => !isJoiningWord p.1).eraseDups
  have hfirst : termTokens (pairs.map Prod.fst) = kept.map Prod.fst :=
    termTokens_map (fun _ _ => rfl) fun p hp q hq h => Prod.ext h ((hequal p hp q hq).1 h)
  have hsecond : termTokens (pairs.map Prod.snd) = kept.map Prod.snd :=
    termTokens_map (fun p hp => (hrespelt p hp).isJoiningWord_eq.symm) fun p hp q hq h =>
      Prod.ext ((hequal p hp q hq).2 h) h
  have hterms : (kept.map Prod.fst).map Term.ofToken = (kept.map Prod.snd).map Term.ofToken := by
    rw [List.map_map, List.map_map]
    refine List.map_congr_left fun p hp => (hrespelt p ?_).ofToken_eq
    exact (List.mem_filter.1 ((eraseDups_sublist _).mem hp)).1
  have hor : (pairs.map Prod.fst).any isOr = (pairs.map Prod.snd).any isOr := by
    rw [List.any_map, List.any_map, Bool.eq_iff_iff, List.any_eq_true, List.any_eq_true]
    refine exists_congr fun p => and_congr_right fun hp => ?_
    rw [Function.comp_apply, Function.comp_apply, (hrespelt p hp).isOr_eq]
  rw [ofTokens, ofTokens, hfirst, hsecond, hterms, hor]

/-- The two lists of tokens are spelt differently place by place, and two places of one have the
same token just if they have in the other. -/
theorem ofTokens_eq_of_respelt {tokens others : List Text}
    (hrespelt : List.Forall₂ Respelt tokens others)
    (hequal : ∀ i < tokens.length, ∀ j < tokens.length,
      (tokens[i]? = tokens[j]? ↔ others[i]? = others[j]?)) :
    ofTokens tokens = ofTokens others := by
  obtain ⟨hlength, hpairs⟩ := List.forall₂_iff_zip.1 hrespelt
  have key : ofTokens ((tokens.zip others).map Prod.fst) =
      ofTokens ((tokens.zip others).map Prod.snd) := by
    refine ofTokens_fst_eq_snd (fun p hp => hpairs hp) fun p hp q hq => ?_
    obtain ⟨i, hi⟩ := List.mem_iff_getElem?.1 hp
    obtain ⟨j, hj⟩ := List.mem_iff_getElem?.1 hq
    obtain ⟨hi₁, hi₂⟩ := List.getElem?_zip_eq_some.1 hi
    obtain ⟨hj₁, hj₂⟩ := List.getElem?_zip_eq_some.1 hj
    have h := hequal i (List.getElem?_eq_some_iff.1 hi₁).1 j (List.getElem?_eq_some_iff.1 hj₁).1
    simpa only [hi₁, hi₂, hj₁, hj₂, Option.some.injEq] using h
  rwa [List.map_fst_zip hlength.le, List.map_snd_zip hlength.ge] at key

/-! ## Expressions -/

/-- **The spelling of terms does not matter**: where the tokens of two expressions are spelt
differently, and no more of them agree in one than in the other, the query is the same, and so are
its filter and its diagnostics. -/
theorem ofText_eq_of_respelt {first second : Text}
    (hrespelt : List.Forall₂ Respelt (texts first) (texts second))
    (hequal : ∀ i < (texts first).length, ∀ j < (texts first).length,
      ((texts first)[i]? = (texts first)[j]? ↔ (texts second)[i]? = (texts second)[j]?)) :
    ofText first = ofText second ∧
      (∀ policy, Filter.compile policy (ofText first) = Filter.compile policy (ofText second)) ∧
      Diagnostic.ofQuery (ofText first) = Diagnostic.ofQuery (ofText second) := by
  have hquery : ofText first = ofText second := ofTokens_eq_of_respelt hrespelt hequal
  exact ⟨hquery, fun policy => by rw [hquery], by rw [hquery]⟩

/-- Two of the tokens are one and the same in both expressions, one is negated and one is a word. -/
theorem respelt_aliases_and_operators :
    let first : Text := "F=>3 -c:Crane F=>3 or Doji"
    let second : Text := "force>=3  -CLAN:Crane force>=3 or Doji"
    List.Forall₂ Respelt (texts first) (texts second) ∧
      (∀ i < (texts first).length, ∀ j < (texts first).length,
        ((texts first)[i]? = (texts first)[j]? ↔ (texts second)[i]? = (texts second)[j]?)) ∧
      ofText first = ofText second := by
  intro first second
  have hforce : Spells "F=>3" "force" .greaterOrEqual "3" :=
    ⟨"F", "=>", splits_of_parts? (by decide), by decide, by decide⟩
  have hforce' : Spells "force>=3" "force" .greaterOrEqual "3" :=
    ⟨"force", ">=", splits_of_parts? (by decide), by decide, by decide⟩
  have hclan : Spells "c:Crane" "clan" .contains "Crane" :=
    ⟨"c", ":", splits_of_parts? (by decide), by decide, by decide⟩
  have hclan' : Spells "CLAN:Crane" "clan" .contains "Crane" :=
    ⟨"CLAN", ":", splits_of_parts? (by decide), by decide, by decide⟩
  have hfirst : texts first =
      [("F=>3" : Text), ("-c:Crane" : Text), ("F=>3" : Text), ("or" : Text), ("Doji" : Text)] := by
    decide +kernel
  have hsecond : texts second =
      [("force>=3" : Text), ("-CLAN:Crane" : Text), ("force>=3" : Text), ("or" : Text),
        ("Doji" : Text)] := by
    decide +kernel
  have hrespelt : List.Forall₂ Respelt (texts first) (texts second) := by
    rw [hfirst, hsecond]
    exact .cons (.plain hforce hforce') (.cons (.negated hclan hclan')
      (.cons (.plain hforce hforce') (.cons (.same _) (.cons (.same _) .nil))))
  have hequal : ∀ i < (texts first).length, ∀ j < (texts first).length,
      ((texts first)[i]? = (texts first)[j]? ↔ (texts second)[i]? = (texts second)[j]?) := by
    decide +kernel
  exact ⟨hrespelt, hequal, (ofText_eq_of_respelt hrespelt hequal).1⟩

/-- Two spellings of one term stay two terms, and are one if the first is respelt as the second. -/
example :
    (ofText "F>3 force>3").terms = [Term.ofToken "force>3", Term.ofToken "force>3"] ∧
      (ofText "force>3 force>3").terms = [Term.ofToken "force>3"] := by
  decide +kernel

end Query

end CardCatalog
