import StaticSite.CommandLine.Help
import StaticSite.CommandLine.Reach

/-!
# The program

Looks at the disk where a command may depend on it, runs the command on what was found, and
carries out the changes.
-/

namespace StaticSite.CommandLine

def look (disk : Disk) (location : Location) : IO Disk := do
  let path := (← IO.currentDir) / Location.path location
  if ← path.isDir then return disk.put location .directory
  else if ← path.pathExists then return disk.put location (.file (← IO.FS.readFile path))
  else return disk

def readVariables (names : List String) : IO Settings.Environment :=
  names.filterMapM fun name => return (← IO.getEnv name).map (name, ·)

def carryOut (changes : Disk) : IO Unit :=
  changes.entries.forM fun
    | (location, .directory) => IO.FS.createDirAll (Location.path location)
    | (location, .file content) => IO.FS.writeFile (Location.path location) content

def runCommand (verbose : Bool) (command : Command) : IO UInt32 := do
  let cwd := Location.ofPath (← IO.currentDir).toString
  let found ← (Location.passed [] cwd ++ command.sources cwd).foldlM look Disk.empty
  let environment ← readVariables (Settings.mentioned found cwd command.settingsFile)
  let around : Surroundings := ⟨cwd, environment⟩
  let before ← (around.targets found command).foldlM look found
  let (report, after) := around.run before command
  carryOut (after.changes before)
  IO.print report.output
  IO.eprint (report.noticeText verbose)
  return report.exitCode.toUInt32

end StaticSite.CommandLine

open StaticSite.CommandLine in
def main (arguments : List String) : IO UInt32 :=
  match parse arguments with
  | none => do
    IO.eprint (helpText .program)
    return 2
  | some .version => do
    IO.print versionText
    return 0
  | some (.help topic) => do
    IO.print (helpText topic)
    return 0
  | some (.run verbose command) => runCommand verbose command
