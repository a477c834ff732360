import StaticSite.CommandLine.Command

/-!
# Help texts
-/

namespace StaticSite.CommandLine

def versionText : String := "siteforge 0.1.0\n"

def lines (texts : List String) : String :=
  String.join (texts.map (· ++ "\n"))

def programHelp : List String :=
  ["SiteForge - compile visual page designs into static sites",
    "",
    "Usage: siteforge [OPTIONS] <COMMAND>",
    "",
    "Commands:",
    "  compile   Compile a single page",
    "  export    Export a whole project to a directory",
    "  validate  Validate a project document",
    "  help      Print this message or the help of the given subcommand(s)",
    "",
    "Options:",
    "  -v, --verbose  Enable verbose output (info-level logs)",
    "  -h, --help     Print help",
    "  -V, --version  Print version"]

def projectHelp : List String :=
  ["",
    "Arguments:",
    "  <PROJECT>  Project document (JSON) saved by the editor",
    "",
    "Options:"]

def compileHelp : List String :=
  ["Compile a single page",
    "",
    "Usage: siteforge compile [OPTIONS] --page <PAGE> <PROJECT>"] ++ projectHelp ++
  ["  -p, --page <PAGE>        Page to compile, by id or route path",
    "      --variant <VARIANT>  Output backend: html, php or react (default: from project type)",
    "  -o, --output <OUTPUT>    Write the document to this file instead of stdout",
    "  -c, --config <CONFIG>    Path to configuration file (default: auto-discover siteforge.toml)",
    "      --lang <LANG>        Document language for `<html lang>` (overrides config)",
    "      --escape             HTML-escape user content and drop inline click handlers",
    "      --no-escape          Interpolate user content verbatim (overrides `escape = true` in config)",
    "  -v, --verbose            Enable verbose output (info-level logs)",
    "  -h, --help               Print help"]

def exportHelp : List String :=
  ["Export a whole project to a directory",
    "",
    "Usage: siteforge export [OPTIONS] <PROJECT>"] ++ projectHelp ++
  ["  -o, --output-dir <OUTPUT_DIR>  Output directory (overrides config, default: dist/ next to the config file)",
    "  -c, --config <CONFIG>          Path to configuration file (default: auto-discover siteforge.toml)",
    "      --lang <LANG>              Document language for `<html lang>` (overrides config)",
    "      --escape                   HTML-escape user content and drop inline click handlers",
    "      --no-escape                Interpolate user content verbatim (overrides `escape = true` in config)",
    "  -v, --verbose                  Enable verbose output (info-level logs)",
    "  -h, --help                     Print help"]

def validateHelp : List String :=
  ["Validate a project document",
    "",
    "Usage: siteforge validate [OPTIONS] <PROJECT>"] ++ projectHelp ++
  ["  -v, --verbose  Enable verbose output (info-level logs)",
    "  -h, --help     Print help"]

def helpHelp : List String :=
  ["Print this message or the help of the given subcommand(s)",
    "",
    "Usage: siteforge help [COMMAND]...",
    "",
    "Arguments:",
    "  [COMMAND]...  Print help for the subcommand(s)"]

def helpText : Topic → String
  | .program => lines programHelp
  | .compile => lines compileHelp
  | .export => lines exportHelp
  | .validate => lines validateHelp
  | .help => lines helpHelp

end StaticSite.CommandLine
