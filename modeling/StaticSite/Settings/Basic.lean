import StaticSite.Disk.Basic

/-!
# Settings

The settings of a run come from a file, from its defaults and from overrides. Whatever they
come from, the language is a tag and the output directory has a path.
-/

namespace StaticSite

structure Settings where
  /-- The language of the documents. -/
  lang : String
  /-- Whether the data of the components is escaped. -/
  escape : Bool
  outputDir : String
  /-- The path of the file that the settings come from, where there is one. -/
  file : Option String
  deriving DecidableEq

/-- Settings that win over those of a file. -/
structure Overrides where
  lang : Option String := none
  escape : Option Bool := none
  outputDir : Option String := none

inductive SettingsError
  | notFound (path : String)
  | io (error : OsError)
  /-- The file is no document, or one with values of the wrong kind. -/
  | malformed
  | emptyLang
  | langForm (lang : String)
  | emptyOutputDir
  /-- A field refers to a variable that has no value. -/
  | unset (field name : String)
  deriving DecidableEq

def SettingsError.message : SettingsError → String
  | .notFound path => "Configuration file not found: " ++ path
  | .io error => "I/O error: " ++ error.message
  | .malformed => "TOML parse error"
  | .emptyLang => "Configuration error: output.lang cannot be empty"
  | .langForm lang =>
    "Configuration error: output.lang must be a language tag such as \"en\" or \"pt-BR\", got \"" ++
      lang ++ "\""
  | .emptyOutputDir => "Configuration error: export.output_dir cannot be empty"
  | .unset field name =>
    "Environment variable error in " ++ field ++ ": $\x7b" ++ name ++ "\x7d not set"

namespace Settings

def fallbackDir : String := "dist"

/-- The settings without a file, with the output directory below a base. -/
def withBase (base : String) : Settings :=
  ⟨"fr", false, Path.join base fallbackDir, none⟩

/-- Characters of language tags. -/
def isTagCharacter (c : Char) : Bool :=
  c.isAlphanum || c = '-'

def check (settings : Settings) : Except SettingsError Settings :=
  if settings.lang.isEmpty then .error .emptyLang
  else if !settings.lang.toList.all isTagCharacter then .error (.langForm settings.lang)
  else if settings.outputDir.isEmpty then .error .emptyOutputDir
  else .ok settings

def override (settings : Settings) (overrides : Overrides) : Settings :=
  { settings with
    lang := overrides.lang.getD settings.lang
    escape := overrides.escape.getD settings.escape
    outputDir := overrides.outputDir.getD settings.outputDir }

end Settings

end StaticSite
