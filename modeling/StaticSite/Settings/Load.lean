import StaticSite.Settings.File

/-!
# Loading settings

A settings file is named, or it is looked for in the working directory and in those above
it. Overrides come last, and do not mend a file with wrong values.
-/

namespace StaticSite

/-- A location and those above it, up to the root. -/
def Location.upwards (location : Location) : List Location :=
  (List.range (location.length + 1)).reverse.map location.take

/-- The absolute path of a location. -/
def Location.path (location : Location) : String :=
  "/" ++ String.intercalate "/" location

namespace Settings

def fileName : String := "siteforge.toml"

/-- The path of the settings file that is nearest above a location. -/
def search? (disk : Disk) (cwd : Location) : Option String :=
  ((Location.upwards cwd).find? fun above => (disk.at? (above ++ [fileName])).isSome).map
    fun above => Path.join (Location.path above) fileName

def readFile (disk : Disk) (cwd : Location) (environment : Environment) (path : String) :
    Except SettingsError Settings := do
  ofFile environment path (← (disk.read cwd path).mapError .io)

/-- The settings of a file that is named, of one that is found, or those without a file. -/
def withoutOverrides (disk : Disk) (cwd : Location) (environment : Environment)
    (path : Option String) : Except SettingsError Settings :=
  match path with
  | some path =>
    if disk.hasPath cwd path then readFile disk cwd environment path else .error (.notFound path)
  | none =>
    match search? disk cwd with
    | some path => readFile disk cwd environment path
    | none => .ok (withBase (Location.path cwd))

/-- All settings of a run. -/
def load (disk : Disk) (cwd : Location) (environment : Environment) (path : Option String)
    (overrides : Option Overrides) : Except SettingsError Settings := do
  let settings ← withoutOverrides disk cwd environment path
  match overrides with
  | none => .ok settings
  | some overrides => (settings.override overrides).check

end Settings

end StaticSite
