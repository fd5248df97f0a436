import CardCatalog.Text

/-!
# JSON

The values of JSON as far as the program writes them, and their indented form: two spaces for each
level, one item or member on a line, a colon and a space behind a name, and brackets without
anything between them when empty.

* `Json.quote` writes a string with the escapes that JSON requires.
* `Json.pretty` writes a value.
-/

namespace CardCatalog

/-- A JSON value; numbers are integers, and the members of an object keep their order. -/
inductive Json where
  | null
  | bool (value : Bool)
  | int (value : Int)
  | text (value : Text)
  | list (items : List Json)
  | object (members : List (Text × Json))

namespace Json

/-- A text, or null. -/
def ofText? (t : Option Text) : Json := (t.map Json.text).getD .null

/-- An integer, or null. -/
def ofInt? (n : Option Int) : Json := (n.map Json.int).getD .null

/-- A list of texts. -/
def ofTexts (ts : List Text) : Json := .list (ts.map .text)

/-! ## Strings -/

/-- The last two hexadecimal digits of `n`, in small letters. -/
def hexPair (n : Nat) : Text := [Nat.digitChar (n / 16 % 16), Nat.digitChar (n % 16)]

/-- A character inside a JSON string. -/
def escape (c : Char) : Text :=
  if c = '"' then "\\\""
  else if c = '\\' then "\\\\"
  else if c = '\x08' then "\\b"
  else if c = '\x0c' then "\\f"
  else if c = '\n' then "\\n"
  else if c = '\r' then "\\r"
  else if c = '\t' then "\\t"
  else if c.toNat < 0x20 then "\\u00" ++ hexPair c.toNat
  else [c]

/-- A text as a JSON string. -/
def quote (t : Text) : Text := '"' :: t.flatMap escape ++ ['"']

/-! ## Values -/

/-- A new line at the given level. -/
def newLine (level : Nat) : Text := '\n' :: List.replicate (2 * level) ' '

mutual

/-- The indented form of a value that starts at the given level. -/
def render (level : Nat) : Json → Text
  | null => "null"
  | bool true => "true"
  | bool false => "false"
  | int n => Text.ofInt n
  | text t => quote t
  | list [] => "[]"
  | list (item :: items) =>
    '[' :: newLine (level + 1) ++ render (level + 1) item ++ renderItems (level + 1) items
      ++ newLine level ++ [']']
  | object [] => ['\x7b', '\x7d']
  | object ((name, value) :: members) =>
    '\x7b' :: newLine (level + 1) ++ quote name ++ ": " ++ render (level + 1) value
      ++ renderMembers (level + 1) members ++ newLine level ++ ['\x7d']

/-- The items of a list after the first. -/
def renderItems (level : Nat) : List Json → Text
  | [] => []
  | item :: items => ',' :: newLine level ++ render level item ++ renderItems level items

/-- The members of an object after the first. -/
def renderMembers (level : Nat) : List (Text × Json) → Text
  | [] => []
  | (name, value) :: members =>
    ',' :: newLine level ++ quote name ++ ": " ++ render level value
      ++ renderMembers level members

end

/-- The indented form of a value, without a line feed at its end. -/
def pretty (value : Json) : Text := render 0 value

end Json

end CardCatalog
