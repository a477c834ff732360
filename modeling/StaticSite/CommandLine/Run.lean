import StaticSite.CommandLine.Command
import StaticSite.CommandLine.Report
import StaticSite.Settings.Load
import StaticSite.Site.Validation

/-!
# Running commands

A command reads all that it needs before it writes anything. A run is a function from a
disk to a report and the disk after it.
-/

namespace StaticSite.CommandLine

/-- What a run finds around it, apart from the disk. -/
structure Surroundings where
  cwd : Location
  environment : Settings.Environment

def Surroundings.loadSettings (around : Surroundings) (disk : Disk) (settingsFile : Option String)
    (overrides : Overrides) : Except CommandError Settings :=
  (Settings.load disk around.cwd around.environment settingsFile (some overrides)).mapError
    .settings

def Surroundings.loadProject (around : Surroundings) (disk : Disk) (path : String) :
    Except CommandError Project := do
  let text ← (disk.read around.cwd path).mapError (.read path)
  (Json.readText readProject text).mapError fun _ => .project path

def optionsOf (settings : Settings) : Options :=
  { lang := settings.lang, mode := if settings.escape then .escaped else .verbatim }

/-! ## Compiling a page -/

/-- What a page is compiled from. -/
structure PageJob where
  options : Options
  project : Project
  page : Page
  variant : Variant

def Surroundings.pageJob (around : Surroundings) (disk : Disk) (command : CompileCommand) :
    Except CommandError PageJob := do
  let settings ← around.loadSettings disk command.settingsFile command.overrides
  let project ← around.loadProject disk command.project
  match project.findPage? command.page with
  | none => .error (.pageNotFound command.page)
  | some page => return ⟨optionsOf settings, project, page, command.variant.getD project.variant⟩

def PageJob.document (job : PageJob) : String :=
  job.page.compile job.options job.project job.variant

def PageJob.notices (job : PageJob) : List Notice :=
  (job.page.warnings job.options job.variant).map .warning

def compiledLine (job : PageJob) (path : String) : String :=
  "Compiled " ++ job.page.path ++ " (" ++ job.variant.name ++ ") to " ++ path

def Surroundings.compile (around : Surroundings) (command : CompileCommand) (disk : Disk) :
    Report × Disk :=
  match around.pageJob disk command with
  | .error e => (.failed [] e, disk)
  | .ok job =>
    match command.output with
    | none => (⟨job.document, job.notices, true⟩, disk)
    | some path =>
      match disk.write around.cwd path job.document with
      | .error e => (.failed job.notices (.write e), disk)
      | .ok disk => (⟨"", job.notices ++ [.line (compiledLine job path)], true⟩, disk)

/-! ## Exporting a project -/

structure ExportJob where
  options : Options
  outputDir : String
  project : Project

def Surroundings.exportJob (around : Surroundings) (disk : Disk) (command : ExportCommand) :
    Except CommandError ExportJob := do
  let settings ← around.loadSettings disk command.settingsFile command.overrides
  let project ← around.loadProject disk command.project
  return ⟨optionsOf settings, settings.outputDir, project⟩

def ExportJob.files (job : ExportJob) : FileMap :=
  job.project.export job.options

def ExportJob.announcement (job : ExportJob) : List String :=
  ["Exporting " ++ job.project.name ++ " (" ++ toString job.project.pages.length ++ " pages, " ++
      job.project.variant.name ++ ")",
    "Output: " ++ job.outputDir] ++
  if job.project.pages.isEmpty then ["Project has no pages; writing scaffold files only"] else []

def ExportJob.notices (job : ExportJob) : List Notice :=
  job.announcement.map .line ++ (job.project.exportWarnings job.options).map .warning

def exportedLine (count : Nat) (dir : String) : String :=
  "Exported " ++ toString count ++ " files to " ++ dir

def Surroundings.export (around : Surroundings) (command : ExportCommand) (disk : Disk) :
    Report × Disk :=
  match around.exportJob disk command with
  | .error e => (.failed [] e, disk)
  | .ok job =>
    match deliver around.cwd job.outputDir job.files disk with
    | (.error e, disk) => (.failed job.notices (.delivery e), disk)
    | (.ok count, disk) =>
      (⟨"", job.notices ++ [.line (exportedLine count job.outputDir)], true⟩, disk)

/-! ## Validating a project -/

/-- The index of a page, if its ids are distinct. -/
def Page.index? (page : Page) : Option Index :=
  (Index.ofForest page.components).toOption

def unrenderedLine (page : Page) (parent child : Component) : String :=
  page.path ++ ": " ++ child.widget.kind.tag ++ " '" ++ child.widget.id ++ "' inside " ++
    parent.widget.kind.tag ++ " '" ++ parent.widget.id ++ "' is not rendered"

def unrenderedLines (page : Page) : List String :=
  match Page.index? page with
  | none => []
  | some index => index.unrendered.map fun (parent, child) => unrenderedLine page parent child

/-- The number of components on pages with distinct ids. -/
def componentCount (project : Project) : Nat :=
  (project.pages.filterMap Page.index?).foldl (fun count index => count + index.nodes.length) 0

def validReport (path : String) (project : Project) : Report :=
  let verdict := path ++ " is valid (" ++ toString project.pages.length ++ " pages, " ++
    toString (componentCount project) ++ " components)"
  ⟨"", (project.pages.flatMap unrenderedLines ++ [verdict]).map .line, true⟩

def problemReport (path : String) (project : Project) : Report :=
  let problems := project.problems
  let lines := project.pages.flatMap unrenderedLines ++ [path ++ ":"] ++
    problems.map fun problem => "  " ++ problem.message
  .failed (lines.map .line) (.problems problems.length)

def Surroundings.validate (around : Surroundings) (path : String) (disk : Disk) : Report :=
  match around.loadProject disk path with
  | .error e => .failed [] e
  | .ok project =>
    if project.problems.isEmpty then validReport path project else problemReport path project

/-- Runs a command on a disk. -/
def Surroundings.run (around : Surroundings) (disk : Disk) : Command → Report × Disk
  | .compile command => around.compile command disk
  | .export command => around.export command disk
  | .validate path => (around.validate path disk, disk)

end StaticSite.CommandLine
