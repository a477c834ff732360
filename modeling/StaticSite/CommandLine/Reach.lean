import StaticSite.CommandLine.Run

/-!
# What a run looks at

The locations that the outcome of a run may depend on, and the variables that its settings
refer to. Nothing else has to be known of the disk and of the environment.
-/

namespace StaticSite

/-- The locations on the way of some segments. -/
def Location.passed (location : Location) : List String → List Location
  | [] => [location]
  | segment :: rest =>
    let next :=
      if Path.isIdle segment then location
      else if segment = ".." then location.dropLast
      else location ++ [segment]
    location :: Location.passed next rest

/-- The locations on the way of a path. -/
def Location.toward (cwd : Location) (path : String) : List Location :=
  Location.passed (if Path.isAbsolute path then [] else cwd) (Path.segments path)

/-- The location of an absolute path without idle segments. -/
def Location.ofPath (path : String) : Location :=
  (Path.segments path).filter (!Path.isIdle ·)

namespace Settings

def Piece.variable? : Piece → Option String
  | .char _ => none
  | .reference name _ => some (String.ofList name)

/-- The variables that the values of a settings file refer to. -/
def FileValues.mentioned (values : FileValues) : List String :=
  (values.lang :: values.outputDir.toList).flatMap fun text =>
    (pieces text.toList).filterMap Piece.variable?

/-- The variables that the settings file of a run refers to. -/
def mentioned (disk : Disk) (cwd : Location) (path : Option String) : List String :=
  let text? := (path.or (search? disk cwd)).bind fun path => (disk.read cwd path).toOption
  ((text?.bind Toml.parse).bind FileValues.ofRoot?).elim [] FileValues.mentioned

end Settings

namespace CommandLine

def Command.project : Command → String
  | .compile command => command.project
  | .export command => command.project
  | .validate path => path

def Command.settingsFile : Command → Option String
  | .compile command => command.settingsFile
  | .export command => command.settingsFile
  | .validate _ => none

/-- The locations that are looked at for the settings and the project. -/
def Command.sources (cwd : Location) (command : Command) : List Location :=
  (Location.upwards cwd).map (· ++ [Settings.fileName]) ++
    (command.project :: command.settingsFile.toList).flatMap (Location.toward cwd)

/-- The locations that are looked at to write the result. -/
def Surroundings.targets (around : Surroundings) (disk : Disk) : Command → List Location
  | .compile command => command.output.toList.flatMap (Location.toward around.cwd)
  | .export command =>
    match around.exportJob disk command with
    | .error _ => []
    | .ok job =>
      job.files.flatMap fun (path, _) =>
        Location.toward around.cwd (Path.join job.outputDir path)
  | .validate _ => []

end CommandLine

end StaticSite
