import CardCatalog.Text

/-!
# Paths

A path is a row of names with slashes between them. The empty name, which stands between two slashes
and at the end behind a slash, leads nowhere, as does a dot alone; two dots lead back. Names and paths
are limited in length.

* `Path.join` is the path of something in a folder.
* `Path.parent` is the path of the folder in which something lies.
-/

namespace CardCatalog.Path

/-- The names on a path. -/
def names (path : Text) : List Text := Text.pieces (· == '/') path

/-- The name leads nowhere. -/
def leadsNowhere (name : Text) : Bool := name = [] || name = ['.']

/-- The name leads back. -/
def leadsBack (name : Text) : Bool := name = ['.', '.']

/-- The name has more bytes than a name can have. -/
def isLongName (name : Text) : Bool := 255 < Text.utf8Size name

/-- The name can be that of a file. -/
def isFileName (name : Text) : Bool :=
  !leadsNowhere name && !leadsBack name && !isLongName name

/-- The path has more bytes than a path can have. -/
def isLong (path : Text) : Bool := 4095 < Text.utf8Size path

/-- The path of something in a folder; the empty path names the folder in which the program
runs. -/
def join (folder name : Text) : Text :=
  if folder = [] || folder.getLast? = some '/' then folder ++ name else folder ++ '/' :: name

/-- The path without its last name and without what leads nowhere before and behind it. -/
def parent (path : Text) : Text :=
  let behind := ((names path).reverse.dropWhile leadsNowhere).drop 1
  List.intercalate ['/'] (behind.dropWhile leadsNowhere).reverse

end CardCatalog.Path
