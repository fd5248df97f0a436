import CardCatalog.Text
import CardCatalog.Text.CaseTable

/-!
# Case mapping

The full case mappings of Unicode, independent of any language: a character may become several,
and a large sigma becomes the final small sigma where a word ends.

* `lower` and `upper` map a text.
* `endsWord` says where a word ends: a letter with case stands before and none stands after, the
  characters that case passes over left out.
-/

namespace CardCatalog.Text

/-- The run maps the code point. -/
def CaseRun.covers (run : CaseRun) (code : Nat) : Bool :=
  run.first ≤ code && code ≤ run.last && (code - run.first) % run.step == 0

/-- The image of a character: its expansion if it has one, else its place in a run, else itself. -/
def mapCase (runs : List CaseRun) (expansions : List (Nat × List Nat)) (c : Char) : Text :=
  match expansions.lookup c.toNat with
  | some codes => codes.map Char.ofNat
  | none =>
    match runs.find? (·.covers c.toNat) with
    | some run => [Char.ofNat (run.target + (c.toNat - run.first))]
    | none => [c]

/-- The small form of a character, away from any context. -/
def lowerChar (c : Char) : Text := mapCase lowerRuns lowerExpansions c

/-- The large form of a character. -/
def upperChar (c : Char) : Text := mapCase upperRuns upperExpansions c

/-- The first character that case does not pass over has case. -/
def startsCased (t : Text) : Bool :=
  match t.dropWhile caseIgnorableRanges.contains with
  | c :: _ => casedRanges.contains c
  | [] => false

/-- A word ends between the two texts; `before` is read backwards. -/
def endsWord (before after : Text) : Bool := startsCased before && !startsCased after

/-- The small form of a text that follows `before`, which is read backwards. -/
def lowerAfter (before : Text) : Text → Text
  | [] => []
  | c :: rest =>
    (if c = 'Σ' then [if endsWord before rest then 'ς' else 'σ'] else lowerChar c)
      ++ lowerAfter (c :: before) rest

/-- The text in small letters. -/
def lower (t : Text) : Text := lowerAfter [] t

/-- The text in large letters. -/
def upper (t : Text) : Text := t.flatMap upperChar

end CardCatalog.Text
