import CardCatalog.Toml.Reader

/-!
# TOML documents

The tables that the statements of a document build. Nothing is said twice: a key is assigned once, a
table has one header, and a table made in one way is not added to in another.

* `Toml.read` reads a document.
-/

namespace CardCatalog.Toml

/-- What is wrong with a document. -/
inductive Fault where
  | notToml
  /-- The key, or the table, is there already. -/
  | saidTwice (keys : List Text)
  deriving DecidableEq, Repr

namespace Entries

/-- Changes the table to which headers lead; of the tables of a repeated header the latest one. -/
def changeAt? (change : Entries → Option Entries) : List Text → Entries → Option Entries
  | [], entries => change entries
  | key :: keys, entries => do
    match entries.lookup key with
    | none => return entries ++ [(key, .table .onTheWay (← changeAt? change keys []))]
    | some (.table origin inner) =>
      if origin = .inline then none
      else return entries.replace key (.table origin (← changeAt? change keys inner))
    | some (.tables (latest :: earlier)) =>
      return entries.replace key (.tables ((← changeAt? change keys latest) :: earlier))
    | some _ => none

/-- Makes the table with a header, or gives its header to a table that was on the way to others. -/
def openTable? (key : Text) (entries : Entries) : Option Entries :=
  match entries.lookup key with
  | none => some (entries ++ [(key, .table .header [])])
  | some (.table .onTheWay inner) => some (entries.replace key (.table .header inner))
  | some _ => none

/-- Adds a table to those of a repeated header. -/
def addTable? (key : Text) (entries : Entries) : Option Entries :=
  match entries.lookup key with
  | none => some (entries ++ [(key, .tables [[]])])
  | some (.tables items) => some (entries.replace key (.tables ([] :: items)))
  | some _ => none

end Entries

/-- What the statements so far have built, and the table that is open. -/
structure Draft where
  root : Entries
  current : List Text

/-- Changes the draft at the table to which all but the last key lead. -/
def Draft.openWith? (change : Text → Entries → Option Entries) (keys : List Text)
    (draft : Draft) : Option Draft := do
  let last ← keys.getLast?
  return ⟨← Entries.changeAt? (change last) keys.dropLast draft.root, keys⟩

/-- The draft after a further statement. -/
def Draft.add (draft : Draft) : Statement → Except Fault Draft
  | .header keys =>
    (draft.openWith? Entries.openTable? keys).elim (.error (.saidTwice keys)) .ok
  | .item keys => (draft.openWith? Entries.addTable? keys).elim (.error (.saidTwice keys)) .ok
  | .assign keys value =>
    match Entries.changeAt? (Entries.insert? value true keys) draft.current draft.root with
    | some root => .ok ⟨root, draft.current⟩
    | none => .error (.saidTwice keys)

/-- The entries of a document. -/
def read (document : Text) : Except Fault Entries :=
  match statements? document with
  | none => .error .notToml
  | some statements =>
    (statements.foldlM Draft.add ⟨[], []⟩).map (·.root)

end CardCatalog.Toml
