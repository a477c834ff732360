import StaticSite.Disk.Delivery
import StaticSite.Settings.Basic

/-!
# Reports

What a command tells: its output, its notices in order, and whether it succeeded.
-/

namespace StaticSite.CommandLine

inductive CommandError
  | settings (error : SettingsError)
  | read (path : String) (error : OsError)
  /-- The file is no project document. -/
  | project (path : String)
  | pageNotFound (key : String)
  | write (error : OsError)
  | delivery (error : DeliveryError)
  | problems (count : Nat)

def CommandError.message : CommandError → String
  | .settings error => error.message
  | .read path error => "failed to read " ++ path ++ ": " ++ error.message
  | .project path => "invalid project file " ++ path
  | .pageNotFound key => "page not found: " ++ key
  | .write error => error.message
  | .delivery error => error.message
  | .problems count => toString count ++ " problem(s) found"

inductive Notice
  | line (text : String)
  /-- Warnings are shown only on demand. -/
  | warning (cause : Warning)

def warningText : Warning → String
  | .inlineHandler id =>
    "WARN sf_codegen::markup: Dropping inline click handler in escaped mode id=" ++ id
  | .clickListener id =>
    "WARN sf_codegen::behavior: Dropping click listener in escaped mode id=" ++ id
  | .pathTaken path =>
    "WARN sf_export::exporter: Export path used more than once, keeping the last page path=" ++ path

def Notice.text? (verbose : Bool) : Notice → Option String
  | .line text => some text
  | .warning cause => if verbose then some (warningText cause) else none

structure Report where
  output : String
  notices : List Notice
  succeeded : Bool

/-- A report that ends with an error. -/
def Report.failed (notices : List Notice) (error : CommandError) : Report :=
  ⟨"", notices ++ [.line ("Error: " ++ error.message)], false⟩

/-- The notices as they are shown, each on a line of its own. -/
def Report.noticeText (verbose : Bool) (report : Report) : String :=
  String.join ((report.notices.filterMap (·.text? verbose)).map (· ++ "\n"))

def Report.exitCode (report : Report) : Nat :=
  if report.succeeded then 0 else 1

end StaticSite.CommandLine
