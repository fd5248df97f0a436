import CardCatalog.Toml.Value

/-!
# TOML strings

The four kinds of TOML string: in double quotes with escapes or in single quotes without, on one
line or, in three quotes, on several. A reader starts behind the opening quotes and answers with the
text and with what follows the closing quotes.

* `Quoted.read?` reads a string of any kind.
-/

namespace CardCatalog.Toml.Quoted

/-- A character that may not stand in a document, line ends aside. -/
def isForbidden (c : Char) : Bool := (c.toNat < 0x20 && c != '\t') || c == '\x7f'

/-- The value of a hexadecimal digit. -/
def hexDigit? (c : Char) : Option Nat :=
  if c.isDigit then some (c.toNat - 48)
  else if 'a' ≤ c && c ≤ 'f' then some (c.toNat - 87)
  else if 'A' ≤ c && c ≤ 'F' then some (c.toNat - 55)
  else none

/-- The character with a hexadecimal code, unless the code stands for none. -/
def ofHex? (digits : Text) : Option Char := do
  let code ← digits.foldlM (fun n c => (hexDigit? c).map (16 * n + ·)) 0
  if code.isValidChar then some (Char.ofNat code) else none

/-- The character that a letter behind a backslash stands for. -/
def escapes : List (Char × Char) :=
  [('b', '\x08'), ('t', '\t'), ('n', '\n'), ('f', '\x0c'), ('r', '\r'), ('"', '"'), ('\\', '\\')]

/-- Puts a character in front of a text that has been read. -/
def push (c : Char) (read : Option (Text × Text)) : Option (Text × Text) :=
  read.map fun (t, rest) => (c :: t, rest)

/-! ## On one line -/

/-- Reads up to a double quote. -/
def readBasic? : Text → Option (Text × Text)
  | '"' :: rest => some ([], rest)
  | '\\' :: 'u' :: a :: b :: c :: d :: rest => do
    push (← ofHex? [a, b, c, d]) (readBasic? rest)
  | '\\' :: 'U' :: a :: b :: c :: d :: e :: f :: g :: h :: rest => do
    push (← ofHex? [a, b, c, d, e, f, g, h]) (readBasic? rest)
  | '\\' :: c :: rest => do push (← escapes.lookup c) (readBasic? rest)
  | c :: rest => if isForbidden c || c == '\\' then none else push c (readBasic? rest)
  | [] => none

/-- Reads up to a single quote. -/
def readLiteral? : Text → Option (Text × Text)
  | '\x27' :: rest => some ([], rest)
  | c :: rest => if isForbidden c then none else push c (readLiteral? rest)
  | [] => none

/-! ## On several lines -/

/-- The text without a line end at its start. -/
def dropLineEnd : Text → Text
  | '\r' :: '\n' :: rest => rest
  | '\n' :: rest => rest
  | t => t

/-- A line ends behind at most some spaces and tabs. -/
def endsLine (t : Text) : Bool :=
  match t.dropWhile (fun c => c == ' ' || c == '\t') with
  | '\n' :: _ => true
  | '\r' :: '\n' :: _ => true
  | _ => false

/-- Reads up to three double quotes, of which up to two more may stand before the last three. A
backslash at the end of a line takes away all blanks up to the next visible character; `skipping`
says that this goes on. -/
def readLongBasic? (skipping : Bool) : Text → Option (Text × Text)
  | '"' :: '"' :: '"' :: '"' :: '"' :: rest => some (['"', '"'], rest)
  | '"' :: '"' :: '"' :: '"' :: rest => some (['"'], rest)
  | '"' :: '"' :: '"' :: rest => some ([], rest)
  | '\\' :: 'u' :: a :: b :: c :: d :: rest => do
    push (← ofHex? [a, b, c, d]) (readLongBasic? false rest)
  | '\\' :: 'U' :: a :: b :: c :: d :: e :: f :: g :: h :: rest => do
    push (← ofHex? [a, b, c, d, e, f, g, h]) (readLongBasic? false rest)
  | '\\' :: c :: rest =>
    if endsLine (c :: rest) then readLongBasic? true rest
    else do push (← escapes.lookup c) (readLongBasic? false rest)
  | '\r' :: '\n' :: rest =>
    if skipping then readLongBasic? true rest else push '\n' (readLongBasic? false rest)
  | c :: rest =>
    if skipping && (c == ' ' || c == '\t' || c == '\n') then readLongBasic? true rest
    else if c == '\n' then push c (readLongBasic? false rest)
    else if isForbidden c || c == '\\' then none
    else push c (readLongBasic? false rest)
  | [] => none

/-- Reads up to three single quotes, of which up to two more may stand before the last three. -/
def readLongLiteral? : Text → Option (Text × Text)
  | '\x27' :: '\x27' :: '\x27' :: '\x27' :: '\x27' :: rest => some (['\x27', '\x27'], rest)
  | '\x27' :: '\x27' :: '\x27' :: '\x27' :: rest => some (['\x27'], rest)
  | '\x27' :: '\x27' :: '\x27' :: rest => some ([], rest)
  | '\r' :: '\n' :: rest => push '\n' (readLongLiteral? rest)
  | c :: rest =>
    if c == '\n' then push c (readLongLiteral? rest)
    else if isForbidden c then none
    else push c (readLongLiteral? rest)
  | [] => none

/-! ## Any of the four -/

/-- Reads a string of one line from its opening quote on. -/
def readShort? : Text → Option (Text × Text)
  | '"' :: rest => readBasic? rest
  | '\x27' :: rest => readLiteral? rest
  | _ => none

/-- Reads a string of any kind from its opening quote on. -/
def read? : Text → Option (Text × Text)
  | '"' :: '"' :: '"' :: rest => readLongBasic? false (dropLineEnd rest)
  | '\x27' :: '\x27' :: '\x27' :: rest => readLongLiteral? (dropLineEnd rest)
  | t => readShort? t

end CardCatalog.Toml.Quoted
