import StaticSite.CommandLine.Arguments
import StaticSite.Settings.Basic
import StaticSite.Site.Compile

/-!
# Commands

The arguments name one of three commands, or ask for the help or the version.
-/

namespace StaticSite.CommandLine

structure CompileCommand where
  project : String
  /-- The id or the route of a page. -/
  page : String
  variant : Option Variant
  /-- The file for the document, in place of the standard output. -/
  output : Option String
  settingsFile : Option String
  overrides : Overrides

structure ExportCommand where
  project : String
  settingsFile : Option String
  overrides : Overrides

inductive Command
  | compile (command : CompileCommand)
  | export (command : ExportCommand)
  | validate (project : String)

inductive Topic
  | program
  | compile
  | export
  | validate
  | help
  deriving DecidableEq

inductive Request
  | version
  | help (topic : Topic)
  | run (verbose : Bool) (command : Command)

/-! ## Rules -/

def verboseRule : OptionRule := ⟨"verbose", some 'v', .switch⟩

def helpRule : OptionRule := ⟨"help", some 'h', .stop⟩

def versionRule : OptionRule := ⟨"version", some 'V', .stop⟩

/-- The options of all commands with output. -/
def outputRules : List OptionRule :=
  [⟨"config", some 'c', .value isNonEmpty⟩,
    ⟨"lang", none, .value fun _ => true⟩,
    ⟨"escape", none, .switch⟩,
    ⟨"no-escape", none, .switch⟩,
    verboseRule, helpRule]

def compileRules : List OptionRule :=
  [⟨"page", some 'p', .value fun _ => true⟩,
    ⟨"variant", none, .value fun name => (Variant.ofName? name).isSome⟩,
    ⟨"output", some 'o', .value isNonEmpty⟩] ++ outputRules

def exportRules : List OptionRule :=
  ⟨"output-dir", some 'o', .value isNonEmpty⟩ :: outputRules

def validateRules : List OptionRule :=
  [verboseRule, helpRule]

/-! ## From matched arguments to commands -/

/-- The two switches exclude each other. -/
def Matched.escape? (matched : Matched) : Option (Option Bool) :=
  match matched.has "escape", matched.has "no-escape" with
  | true, true => none
  | true, false => some (some true)
  | false, true => some (some false)
  | false, false => some none

def Matched.overrides? (matched : Matched) : Option Overrides := do
  let escape ← matched.escape?
  return { lang := matched.value? "lang", escape, outputDir := matched.value? "output-dir" }

def Matched.compile? (matched : Matched) : Option Command := do
  let project ← matched.operands.head?
  let page ← matched.value? "page"
  let overrides ← matched.overrides?
  let variant := (matched.value? "variant").bind Variant.ofName?
  return .compile
    ⟨project, page, variant, matched.value? "output", matched.value? "config", overrides⟩

def Matched.export? (matched : Matched) : Option Command := do
  let project ← matched.operands.head?
  return .export ⟨project, matched.value? "config", ← matched.overrides?⟩

def Matched.validate? (matched : Matched) : Option Command :=
  matched.operands.head?.map .validate

/-! ## Parsing -/

def parseCommand (verbose : Bool) (topic : Topic) (rules : List OptionRule)
    (command? : Matched → Option Command) (arguments : List String) : Option Request :=
  match scan rules 1 {} arguments with
  | none => none
  | some (.stopped _) => some (.help topic)
  | some (.finished matched) =>
    (command? matched).map fun command => .run (verbose || matched.has "verbose") command

def parseHelp : List String → Option Request
  | [] => some (.help .program)
  | ["compile"] => some (.help .compile)
  | ["export"] => some (.help .export)
  | ["validate"] => some (.help .validate)
  | ["help"] => some (.help .help)
  | _ => none

def parseNamed (verbose : Bool) : List String → Option Request
  | "compile" :: rest => parseCommand verbose .compile compileRules Matched.compile? rest
  | "export" :: rest => parseCommand verbose .export exportRules Matched.export? rest
  | "validate" :: rest => parseCommand verbose .validate validateRules Matched.validate? rest
  | "help" :: rest => parseHelp rest
  | _ => none

/-- The request of some arguments, unless they are no proper ones. -/
def parse (arguments : List String) : Option Request :=
  let options := arguments.takeWhile isHyphened
  match scan [verboseRule, helpRule, versionRule] 0 {} options with
  | none => none
  | some (.stopped name) => some (if name = "version" then .version else .help .program)
  | some (.finished matched) =>
    if options.contains "--" then none
    else parseNamed (matched.has "verbose") (arguments.dropWhile isHyphened)

end StaticSite.CommandLine
