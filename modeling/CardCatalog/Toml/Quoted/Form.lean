import CardCatalog.Toml.Quoted

/-!
# Forms of TOML strings

Every text can be written in double quotes, some also in the three other forms. A text is written
without escapes, those of tabs aside, if one of the forms allows it, and on one line rather than on
several.

* `Form.ofText` chooses the form for a text.
* `Quoted.write` writes a text in its form.
-/

namespace CardCatalog.Toml.Quoted

/-- How a string is quoted. -/
inductive Form where
  /-- In double quotes, with escapes. -/
  | basic
  /-- In single quotes. -/
  | literal
  /-- In three double quotes, with escapes except for line feeds. -/
  | longBasic
  /-- In three single quotes. -/
  | longLiteral
  deriving DecidableEq, Repr

/-! ## The choice -/

/-- The character stands in a string only as an escape. -/
def isControl (c : Char) : Bool := isForbidden c && c != '\n'

/-- The character stands three times in a row. -/
def hasThree (c : Char) : Text → Bool
  | x :: y :: z :: rest => (x == c && y == c && z == c) || hasThree c (y :: z :: rest)
  | _ => false

/-- The form needs no escapes for the text, those of tabs aside. -/
def Form.suits (t : Text) : Form → Bool
  | .basic => !t.any isControl && !t.contains '\n' && !t.contains '\\' && !t.contains '"'
  | .literal => !t.any isControl && !t.contains '\n' && !t.contains '\x27'
  | .longBasic => !t.any isControl && !t.contains '\\' && !hasThree '"' t
  | .longLiteral => !t.any isControl && !hasThree '\x27' t

/-- The form in which a text is written: the first that needs no escapes, or else double quotes, three
of them if the text has several lines. -/
def Form.ofText (t : Text) : Form :=
  match [Form.basic, .literal, .longBasic, .longLiteral].find? (·.suits t) with
  | some form => form
  | none => if t.contains '\n' then .longBasic else .basic

/-! ## Writing -/

/-- A hexadecimal digit, in large letters. -/
def hexDigit (n : Nat) : Char := (Nat.digitChar (n % 16)).toUpper

/-- A character between double quotes. -/
def escape (c : Char) : Text :=
  match escapes.find? (·.2 = c) with
  | some (letter, _) => ['\\', letter]
  | none =>
    if isForbidden c then
      ['\\', 'u', '0', '0', hexDigit (c.toNat / 16), hexDigit c.toNat]
    else [c]

/-- A text between three double quotes, behind `quotes` double quotes in a row. A third one in a row
is escaped. -/
def longEscape (quotes : Nat) : Text → Text
  | [] => []
  | c :: rest =>
    if c = '"' then
      if quotes < 2 then c :: longEscape (quotes + 1) rest else escape c ++ longEscape 0 rest
    else if c = '\n' then c :: longEscape 0 rest
    else escape c ++ longEscape 0 rest

/-- The line end behind the opening quotes of a text with several lines, which does not belong to
it. -/
def opening (t : Text) : Text := if t.contains '\n' then ['\n'] else []

/-- The text in a form that can hold it. -/
def Form.write (t : Text) : Form → Text
  | .basic => '"' :: t.flatMap escape ++ ['"']
  | .literal => '\x27' :: t ++ ['\x27']
  | .longBasic => "\"\"\"" ++ opening t ++ longEscape 0 t ++ "\"\"\""
  | .longLiteral => "\x27\x27\x27" ++ opening t ++ t ++ "\x27\x27\x27"

/-- The text as a string. -/
def write (t : Text) : Text := (Form.ofText t).write t

end CardCatalog.Toml.Quoted
