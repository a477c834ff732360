import StaticSite.Text.Split

/-!
# Paths

A path is a text in which slashes separate segments. Joining paths is a matter of their
texts alone; what a path stands for is decided by a disk.
-/

namespace StaticSite.Path

def isSlash (c : Char) : Bool :=
  c = '/'

/-- The pieces between the slashes; the first one of an absolute path is empty. -/
def segments (path : String) : List String :=
  (Text.splitWhere isSlash path.toList).map String.ofList

def isAbsolute (path : String) : Bool :=
  path.toList.head? = some '/'

/-- An absolute path stands for itself, and another one goes below the base. -/
def join (base path : String) : String :=
  if isAbsolute path || base.isEmpty then path
  else if base.toList.getLast? = some '/' then base ++ path
  else base ++ "/" ++ path

/-- Segments that stand for the directory that they are in. -/
def isIdle (segment : String) : Bool :=
  segment.isEmpty || segment = "."

/-- Drops idle segments from the end, but never the first segment. -/
def dropIdle : List String → List String
  | [] => []
  | first :: rest => first :: (rest.reverse.dropWhile isIdle).reverse

/-- The path of some segments of which the first is empty for an absolute path. -/
def ofSegments : List String → String
  | [""] => "/"
  | segments => String.intercalate "/" segments

/-- The path without its last segment that is not idle. The root and the empty path have
none. -/
def parent? (path : String) : Option String :=
  match dropIdle (segments path) with
  | [] => none
  | [first] => if first.isEmpty then none else some ""
  | first :: rest => some (ofSegments (dropIdle (first :: rest.dropLast)))

/-- A relative path that names something and never leaves the directory it starts in. -/
def isContained (path : String) : Bool :=
  !path.isEmpty && !isAbsolute path && !(segments path).contains ".."

end StaticSite.Path
