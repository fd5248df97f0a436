import CardCatalog.Path

/-!
# A folder of files

The files and folders below one folder and beside it, as far as a session of commands needs them:
looking at a path, making the folders on a path, and writing a file.

* `Folder.look` says what is at a path.
* `Folder.makePath` makes the folders on a path, as far as that is possible.
* `Folder.write?` gives the folder with a file written, or fails.
-/

namespace CardCatalog

/-- The names that lead to something, the last one its own. What lies outside of the folder is reached
by two dots, which stand in front of all names. -/
abbrev Route := List Text

/-- What can be at a route. -/
inductive Entry where
  | file (content : Text)
  | folder
  deriving DecidableEq, Repr

/-- What a command finds at a path. -/
inductive Found where
  | missing
  /-- Something that has no text, such as a folder. -/
  | unreadable
  | content (text : Text)
  deriving DecidableEq, Repr

/-- The files and folders below a folder and beside it. Each route stands for at most one entry; the
folder itself and those around it are not listed. -/
structure Folder where
  entries : List (Route × Entry)
  deriving DecidableEq, Repr

/-- Where a name leads from the folder at a route. -/
def Route.step (route : Route) (name : Text) : Route :=
  if Path.leadsNowhere name then route
  else if Path.leadsBack name && !route.all Path.leadsBack then route.dropLast
  else route ++ [name]

/-- The names joined by slashes. -/
def Route.path (route : Route) : Text := List.intercalate ['/'] route

namespace Folder

/-- Nothing in the folder. -/
def empty : Folder := ⟨[]⟩

/-! ## Looking -/

/-- What is at a route. -/
def entry? (folder : Folder) (route : Route) : Option Entry :=
  if route.all Path.leadsBack then some .folder else folder.entries.lookup route

/-- Where names lead from a route. Names lead on from folders only. -/
def follow? (folder : Folder) (route : Route) : List Text → Option Route
  | [] => some route
  | name :: names =>
    if folder.entry? route = some .folder then folder.follow? (route.step name) names else none

/-- Where a path leads. The empty path leads to nothing. -/
def locate? (folder : Folder) (path : Text) : Option Route :=
  if path = [] || Path.isLong path then none else folder.follow? [] (Path.names path)

/-- What is at a path. -/
def look (folder : Folder) (path : Text) : Found :=
  match (folder.locate? path).bind folder.entry? with
  | none => .missing
  | some .folder => .unreadable
  | some (.file content) => .content content

/-! ## Changing -/

/-- Puts an entry at a route, in place of what was there. -/
def put (folder : Folder) (route : Route) (entry : Entry) : Folder :=
  ⟨(route, entry) :: folder.entries.filter (·.1 ≠ route)⟩

/-- Makes the folders to which names lead from a route, where there are none; tells whether all of
them are there. A file in the way or a name that is too long ends the making. -/
def makeFolders (folder : Folder) (route : Route) : List Text → Folder × Bool
  | [] => (folder, true)
  | name :: names =>
    let next := route.step name
    match folder.entry? next with
    | none =>
      if Path.isLongName name then (folder, false)
      else (folder.put next .folder).makeFolders next names
    | some .folder => folder.makeFolders next names
    | some (.file _) => (folder, false)

/-- Makes the folders on a path, where there are none; tells whether all of them are there. -/
def makePath (folder : Folder) (path : Text) : Folder × Bool :=
  if Path.isLong path then (folder, false) else folder.makeFolders [] (Path.names path)

/-- The route at which a file with the path is written: in a folder that is there, and where there
is no folder. -/
def target? (folder : Folder) (path : Text) : Option Route := do
  let name ← (Path.names path).getLast?
  let home ← folder.follow? [] (Path.names path).dropLast
  if Path.isFileName name && !Path.isLong path && folder.entry? home = some .folder &&
      folder.entry? (home.step name) ≠ some .folder then some (home.step name)
  else none

/-- Writes a file, if the path leads to a place for it. -/
def write? (folder : Folder) (path content : Text) : Option Folder :=
  (folder.target? path).map fun route => folder.put route (.file content)

/-- Adds a file or a folder together with the folders on the way to it. -/
def add (folder : Folder) (path : Text) (entry : Entry) : Folder :=
  let names := Path.names path
  (folder.makeFolders [] names.dropLast).1.put (names.foldl Route.step []) entry

/-! ## Listing -/

/-- The paths and contents of the files in the folder whose paths end as asked. -/
def filesEnding (folder : Folder) (ending : Text) : List (Text × Text) :=
  folder.entries.filterMap fun entry =>
    match entry.2 with
    | .file content =>
      if ending.isSuffixOf entry.1.path && !entry.1.any Path.leadsBack then
        some (entry.1.path, content)
      else none
    | .folder => none

end Folder

end CardCatalog
