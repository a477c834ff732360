import StaticSite.Settings.Basic
import StaticSite.Settings.Expansion
import StaticSite.Toml.Document

/-!
# Settings files

A settings file is a TOML document with two tables, `output` and `export`. What else stands
in it matters little: it is only looked through for numbers without a value.
-/

namespace StaticSite.Settings

/-- The values of a settings file as they are written. -/
structure FileValues where
  lang : String := "fr"
  escape : Bool := false
  outputDir : Option String := none

/-- A field of a table by its name, or of an array by its place. A date or a time passes for
a table without any of the fields. -/
def field? (name : String) (place : Nat) : Toml.Value → Option (Option Toml.Value)
  | .table _ entries => some (entries.lookup name)
  | .array items => some items[place]?
  | .tables elements => some elements[place]?
  | .moment => some none
  | _ => none

def readString : Toml.Value → Option String
  | .string s => some s
  | _ => none

def readBool : Toml.Value → Option Bool
  | .bool b => some b
  | _ => none

/-- Reads a field of a section if both are there. -/
def readField {α : Type} (read : Toml.Value → Option α) (name : String) (place : Nat)
    (tableValue : Option Toml.Value) : Option (Option α) :=
  match tableValue with
  | none => some none
  | some value =>
    match field? name place value with
    | none => none
    | some none => some none
    | some (some v) => (read v).map some

/-- Whether what stands beside the fields of a table is sound. -/
def othersSound (fields : List String) (entries : Toml.Entries) : Bool :=
  Toml.entriesSound (entries.filter fun entry => !fields.contains entry.1)

/-- Whether what stands beside the fields of a section is sound. In an array nothing behind
the fields is looked at. -/
def sectionSound (fields : List String) : Toml.Value → Bool
  | .table _ entries => othersSound fields entries
  | _ => true

/-- The values of a root table, unless one is of the wrong kind or a number somewhere else
has no value. -/
def FileValues.ofRoot? (root : Toml.Entries) : Option FileValues := do
  let output := root.lookup "output"
  let exported := root.lookup "export"
  let lang ← readField readString "lang" 0 output
  let escape ← readField readBool "escape" 1 output
  let outputDir ← readField readString "output_dir" 0 exported
  if othersSound ["output", "export"] root && output.all (sectionSound ["lang", "escape"]) &&
      exported.all (sectionSound ["output_dir"]) then
    return { lang := lang.getD "fr", escape := escape.getD false, outputDir }
  else none

def expandField (environment : Environment) (name text : String) : Except SettingsError String :=
  (expand environment text).mapError (.unset name)

/-- Settings from the text of a file at a path. The output directory is relative to the
directory of the file. -/
def ofFile (environment : Environment) (path text : String) : Except SettingsError Settings := do
  match (Toml.parse text).bind FileValues.ofRoot? with
  | none => .error .malformed
  | some values =>
    let lang ← expandField environment "output.lang" values.lang
    let outputDir ← match values.outputDir with
      | none => .ok fallbackDir
      | some dir => expandField environment "export.output_dir" dir
    if outputDir.isEmpty then .error .emptyOutputDir
    else check ⟨lang, values.escape, Path.join ((Path.parent? path).getD ".") outputDir, some path⟩

end StaticSite.Settings
