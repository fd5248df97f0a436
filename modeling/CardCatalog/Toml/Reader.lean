import CardCatalog.Toml.Scalar

/-!
# TOML statements

A document is a row of statements: headers that open a table, and assignments to keys. A reader of a
part answers with the part and with what follows it, or with nothing if the part does not stand
there.

* `readKeys?` reads a key, of which the parts are joined by dots.
* `readValue?` reads a value.
* `statements?` reads a whole document.

Values nest, so their reader, like that of the statements, is given a number of steps that no text
of its length exceeds.
-/

namespace CardCatalog.Toml

/-- A line of a document that says something. -/
inductive Statement where
  /-- A header in brackets. -/
  | header (keys : List Text)
  /-- A header in double brackets. -/
  | item (keys : List Text)
  | assign (keys : List Text) (value : Value)

/-! ## Between the parts -/

/-- A space or a tab. -/
def isPad (c : Char) : Bool := c == ' ' || c == '\t'

/-- The text without spaces and tabs at its start. -/
def dropPad (t : Text) : Text := t.dropWhile isPad

/-- The text behind a comment at its start. A comment runs to the end of the line. -/
def afterComment? : Text → Option Text
  | '#' :: rest =>
    let comment := rest.takeWhile fun c => c != '\n' && c != '\r'
    if comment.any Quoted.isForbidden then none else some (rest.drop comment.length)
  | t => some t

/-- The text behind the end of a line, before which padding and a comment may stand. -/
def afterLine? (t : Text) : Option Text := do
  match ← afterComment? (dropPad t) with
  | [] => some []
  | '\n' :: rest => some rest
  | '\r' :: '\n' :: rest => some rest
  | _ => none

/-- The text behind padding, comments and line ends. -/
def afterGap? : Nat → Text → Option Text
  | 0, _ => none
  | steps + 1, t => do
    match ← afterComment? (dropPad t) with
    | '\n' :: rest => afterGap? steps rest
    | '\r' :: '\n' :: rest => afterGap? steps rest
    | rest => some rest

/-! ## Keys -/

/-- A key has fewer parts than this, and fewer lists and tables stand inside one another. -/
def depthLimit : Nat := 80

/-- The character may stand in a key without quotes. -/
def isKeyChar (c : Char) : Bool := c.isAlphanum || c == '_' || c == '-'

/-- Reads one part of a key. -/
def readKey? (t : Text) : Option (Text × Text) :=
  match Quoted.readShort? t with
  | some read => some read
  | none =>
    let key := t.takeWhile isKeyChar
    if key = [] then none else some (key, t.dropWhile isKeyChar)

/-- Reads the parts of a key and the padding behind it. -/
def readParts? : Nat → Text → Option (List Text × Text)
  | 0, _ => none
  | steps + 1, t => do
    let (key, rest) ← readKey? t
    match dropPad rest with
    | '.' :: rest =>
      let (keys, rest) ← readParts? steps (dropPad rest)
      some (key :: keys, rest)
    | rest => some ([key], rest)

/-- Reads a key and the padding behind it. -/
def readKeys? (steps : Nat) (t : Text) : Option (List Text × Text) :=
  (readParts? steps t).filter fun read => read.1.length < depthLimit

/-! ## Entries of a table -/

/-- Adds an entry under a key of which the earlier parts lead through tables without a header, or to
the latest of the tables of a repeated header. The last table on the way must be made by dotted
keys, unless it is the table at the start and that one is `open`. There is no such entry yet. -/
def Entries.insert? (value : Value) (isOpen : Bool) : List Text → Entries → Option Entries
  | [], _ => none
  | [key], entries =>
    if isOpen && (entries.lookup key).isNone then some (entries ++ [(key, value)]) else none
  | key :: keys, entries =>
    match entries.lookup key with
    | none => do return entries ++ [(key, .table .dotted (← insert? value true keys []))]
    | some (.table .dotted inner) => do
      return entries.replace key (.table .dotted (← insert? value true keys inner))
    | some (.table .onTheWay inner) => do
      return entries.replace key (.table .onTheWay (← insert? value false keys inner))
    | some (.tables (latest :: earlier)) => do
      return entries.replace key (.tables ((← insert? value false keys latest) :: earlier))
    | some _ => none

/-! ## Values -/

mutual

/-- Reads a value of at most `room` lists and tables inside one another. -/
def readValue? (room : Nat) : Nat → Text → Option (Value × Text)
  | 0, _ => none
  | steps + 1, t =>
    match t, room with
    | '[' :: rest, room + 1 => do
      let (items, rest) ← readItems? room steps (← afterGap? steps rest)
      return (.list items, rest)
    | '\x7b' :: rest, room + 1 =>
      match dropPad rest with
      | '\x7d' :: rest => some (.table .inline [], rest)
      | rest => do
        let (entries, rest) ← readEntries? room steps [] rest
        return (.table .inline entries, rest)
    | '"' :: _, _ => (Quoted.read? t).map fun (text, rest) => (.text text, rest)
    | '\x27' :: _, _ => (Quoted.read? t).map fun (text, rest) => (.text text, rest)
    | _, _ => Scalar.read? t

/-- Reads the items of a list up to its bracket. A comma may stand behind the last one. -/
def readItems? (room : Nat) : Nat → Text → Option (List Value × Text)
  | 0, _ => none
  | steps + 1, t =>
    match t with
    | ']' :: rest => some ([], rest)
    | _ => do
      let (item, rest) ← readValue? room steps t
      match ← afterGap? steps rest with
      | ',' :: rest =>
        let (items, rest) ← readItems? room steps (← afterGap? steps rest)
        return (item :: items, rest)
      | ']' :: rest => some ([item], rest)
      | _ => none

/-- Reads the entries of a table up to its brace, behind those already read. -/
def readEntries? (room : Nat) : Nat → Entries → Text → Option (Entries × Text)
  | 0, _, _ => none
  | steps + 1, entries, t => do
    let (keys, rest) ← readKeys? steps t
    let '=' :: rest := rest | none
    let (value, rest) ← readValue? room steps (dropPad rest)
    let entries ← entries.insert? value true keys
    match dropPad rest with
    | ',' :: rest => readEntries? room steps entries (dropPad rest)
    | '\x7d' :: rest => some (entries, rest)
    | _ => none

end

/-! ## Statements -/

/-- Reads a statement up to the end of its line. -/
def readStatement? (steps : Nat) (t : Text) : Option (Statement × Text) :=
  match t with
  | '[' :: '[' :: rest => do
    let (keys, rest) ← readKeys? steps (dropPad rest)
    let ']' :: ']' :: rest := rest | none
    return (.item keys, rest)
  | '[' :: rest => do
    let (keys, rest) ← readKeys? steps (dropPad rest)
    let ']' :: rest := rest | none
    return (.header keys, rest)
  | _ => do
    let (keys, rest) ← readKeys? steps t
    let '=' :: rest := rest | none
    let (value, rest) ← readValue? (depthLimit - 1) steps (dropPad rest)
    return (.assign keys value, rest)

/-- Reads statements to the end of the document. -/
def readStatements? : Nat → Text → Option (List Statement)
  | 0, _ => none
  | steps + 1, t => do
    match ← afterGap? (steps + 1) t with
    | [] => some []
    | rest =>
      let (statement, rest) ← readStatement? (steps + 1) rest
      let statements ← readStatements? steps (← afterLine? rest)
      return statement :: statements

/-- The statements of a document. A byte order mark may stand before them. -/
def statements? (document : Text) : Option (List Statement) :=
  let body := match document with
    | '\uFEFF' :: rest => rest
    | t => t
  readStatements? (document.length + 2) body

end CardCatalog.Toml
