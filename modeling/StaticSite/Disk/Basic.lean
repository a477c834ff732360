import StaticSite.Disk.Path

/-!
# Disks

A disk holds files and directories at locations, which are lists of names from the root.
There are no links, and nothing fails but for what stands where.
-/

namespace StaticSite

inductive Entry
  | file (content : String)
  | directory
  deriving DecidableEq

/-- Names from the root downwards. -/
abbrev Location := List String

inductive OsError
  | notFound
  | exists
  | notDirectory
  | isDirectory
  | nameTooLong
  | invalidName
  deriving DecidableEq

def OsError.message : OsError → String
  | .notFound => "No such file or directory (os error 2)"
  | .exists => "File exists (os error 17)"
  | .notDirectory => "Not a directory (os error 20)"
  | .isDirectory => "Is a directory (os error 21)"
  | .nameTooLong => "File name too long (os error 36)"
  | .invalidName => "file name contained an unexpected NUL byte"

structure Disk where
  entries : List (Location × Entry)

namespace Disk

def empty : Disk := ⟨[]⟩

/-- What stands at a location. The root is always a directory. -/
def at? (disk : Disk) (location : Location) : Option Entry :=
  if location.isEmpty then some .directory else disk.entries.lookup location

def putEntry (location : Location) (entry : Entry) :
    List (Location × Entry) → List (Location × Entry)
  | [] => [(location, entry)]
  | (l, e) :: rest =>
    if l = location then (location, entry) :: rest else (l, e) :: putEntry location entry rest

def put (disk : Disk) (location : Location) (entry : Entry) : Disk :=
  ⟨putEntry location entry disk.entries⟩

/-! ## Finding locations -/

def longestName : Nat := 255

def longestPath : Nat := 4095

/-- Goes on from a location. Only below a directory there is a way on. -/
def walk (disk : Disk) (location : Location) : List String → Except OsError Location
  | [] => .ok location
  | segment :: rest =>
    match disk.at? location with
    | none => .error .notFound
    | some (.file _) => .error .notDirectory
    | some .directory =>
      if Path.isIdle segment then disk.walk location rest
      else if segment = ".." then disk.walk location.dropLast rest
      else if longestName < segment.utf8ByteSize then .error .nameTooLong
      else disk.walk (location ++ [segment]) rest

/-- The location of some segments of a path, seen from a working directory. -/
def locateSegments (disk : Disk) (cwd : Location) (path : String) (segments : List String) :
    Except OsError Location :=
  if path.isEmpty then .error .notFound
  else if path.toList.contains '\x00' then .error .invalidName
  else if longestPath < path.utf8ByteSize then .error .nameTooLong
  else disk.walk (if Path.isAbsolute path then [] else cwd) segments

/-- The location of a path. There need not be anything at it. -/
def locate (disk : Disk) (cwd : Location) (path : String) : Except OsError Location :=
  disk.locateSegments cwd path (Path.segments path)

def entryAt? (disk : Disk) (cwd : Location) (path : String) : Option Entry :=
  match disk.locate cwd path with
  | .ok location => disk.at? location
  | .error _ => none

def hasPath (disk : Disk) (cwd : Location) (path : String) : Bool :=
  (disk.entryAt? cwd path).isSome

def isDirectory (disk : Disk) (cwd : Location) (path : String) : Bool :=
  disk.entryAt? cwd path = some .directory

/-! ## Reading and changing -/

def read (disk : Disk) (cwd : Location) (path : String) : Except OsError String := do
  match disk.at? (← disk.locate cwd path) with
  | none => .error .notFound
  | some .directory => .error .isDirectory
  | some (.file content) => .ok content

/-- The segments without empty ones at the end. -/
def withoutTrailingSlashes (path : String) : List String :=
  match Path.segments path with
  | [] => []
  | first :: rest => first :: (rest.reverse.dropWhile String.isEmpty).reverse

/-- Writes a file, in place of the one that is there. A path with a slash at its end can
only be a directory. -/
def write (disk : Disk) (cwd : Location) (path content : String) : Except OsError Disk := do
  let segments := withoutTrailingSlashes path
  let last := segments.getLast?.getD ""
  if segments ≠ Path.segments path && last ≠ ".." && !Path.isIdle last then
    let above ← disk.locateSegments cwd path (segments.dropLast ++ ["."])
    match disk.at? above with
    | none => .error .notFound
    | some _ => .error .isDirectory
  else
    let location ← disk.locate cwd path
    if disk.at? location = some .directory then .error .isDirectory
    else .ok (disk.put location (.file content))

/-- Makes one directory. -/
def makeDirectory (disk : Disk) (cwd : Location) (path : String) : Except OsError Disk := do
  let location ← disk.locateSegments cwd path (withoutTrailingSlashes path)
  match disk.at? location with
  | some _ => .error .exists
  | none => .ok (disk.put location .directory)

/-- A directory that is there already is as good as one that was made. -/
def acceptDirectory (disk : Disk) (cwd : Location) (path : String) :
    Except OsError Disk → Except OsError Unit × Disk
  | .ok made => (.ok (), made)
  | .error e => (if disk.isDirectory cwd path then .ok () else .error e, disk)

/-- Makes a directory and those above it that are missing, at most so many. What was made
before an error stays. -/
def makeDirectories (cwd : Location) : (levels : Nat) → (path : String) → (disk : Disk) →
    Except OsError Unit × Disk
  | 0, _, disk => (.error .notFound, disk)
  | levels + 1, path, disk =>
    if path.isEmpty then (.ok (), disk)
    else
      match disk.makeDirectory cwd path with
      | .error .notFound =>
        match Path.parent? path with
        | none => (.error .notFound, disk)
        | some above =>
          match makeDirectories cwd levels above disk with
          | (.error e, disk) => (.error e, disk)
          | (.ok (), disk) => disk.acceptDirectory cwd path (disk.makeDirectory cwd path)
      | result => disk.acceptDirectory cwd path result

def ensureDirectory (disk : Disk) (cwd : Location) (path : String) : Except OsError Unit × Disk :=
  makeDirectories cwd ((Path.segments path).length + 1) path disk

/-! ## Listings -/

/-- A path relative to a location above, and a content for files; directories have a
slash at the end. -/
def listed (names : List String) : Entry → String × Option String
  | .file content => (String.intercalate "/" names, some content)
  | .directory => (String.intercalate "/" names ++ "/", none)

/-- Everything below a location, in ascending order of the paths. -/
def below (disk : Disk) (location : Location) : List (String × Option String) :=
  let found := disk.entries.filterMap fun (l, entry) =>
    if location.isPrefixOf l && l ≠ location then some (listed (l.drop location.length) entry)
    else none
  found.mergeSort fun a b => a.1 ≤ b.1

/-- The part of a disk in which it is not as it was before. -/
def changes (disk before : Disk) : Disk :=
  ⟨disk.entries.filter fun (location, entry) => before.at? location ≠ some entry⟩

end Disk

end StaticSite
