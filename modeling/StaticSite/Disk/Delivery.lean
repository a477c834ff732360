import StaticSite.Disk.Basic
import StaticSite.Site.Export

/-!
# Writing an exported site

The files of an exported site are written below one directory. All paths are checked
before anything is written; after that, what was written before an error stays.
-/

namespace StaticSite

inductive DeliveryError
  | unsafePath (path : String)
  /-- A file, or a directory for it, could not be written. -/
  | io (path : String) (error : OsError)

def DeliveryError.message : DeliveryError → String
  | .unsafePath path => "refusing to write outside the output directory: " ++ path
  | .io path error => "failed to write " ++ path ++ ": " ++ error.message

/-- The first path that is not contained in the directory. -/
def FileMap.unsafePath? (files : FileMap) : Option String :=
  (files.find? fun (path, _) => !Path.isContained path).map (·.1)

/-- Writes one file, and the directories that it needs. -/
def deliverFile (cwd : Location) (target content : String) (disk : Disk) :
    Except DeliveryError Unit × Disk :=
  let above := (Path.parent? target).getD ""
  match disk.ensureDirectory cwd above with
  | (.error e, disk) => (.error (.io above e), disk)
  | (.ok (), disk) =>
    match disk.write cwd target content with
    | .error e => (.error (.io target e), disk)
    | .ok disk => (.ok (), disk)

/-- Goes on with the disk that a step leaves, unless the step failed. -/
def proceed (done : Except DeliveryError Unit × Disk)
    (next : Disk → Except DeliveryError Unit × Disk) : Except DeliveryError Unit × Disk :=
  match done with
  | (.error e, disk) => (.error e, disk)
  | (.ok (), disk) => next disk

def deliverAll (cwd : Location) (dir : String) : FileMap → Disk → Except DeliveryError Unit × Disk
  | [], disk => (.ok (), disk)
  | (path, content) :: rest, disk =>
    proceed (deliverFile cwd (Path.join dir path) content disk) (deliverAll cwd dir rest)

/-- Writes all files below a directory, and tells how many they are. -/
def deliver (cwd : Location) (dir : String) (files : FileMap) (disk : Disk) :
    Except DeliveryError Nat × Disk :=
  match files.unsafePath? with
  | some path => (.error (.unsafePath path), disk)
  | none =>
    let (result, disk) := deliverAll cwd dir files disk
    (result.map fun () => files.length, disk)

end StaticSite
