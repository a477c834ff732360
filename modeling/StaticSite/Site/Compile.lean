import StaticSite.Html.Document
import StaticSite.Jsx.PageModule

/-!
# Compiling pages

A page becomes an HTML document, a PHP document or a page module. Compiling never fails.
-/

namespace StaticSite

/-- What a page becomes. -/
inductive Variant
  | html
  | php
  | react
  deriving DecidableEq

def Variant.name : Variant → String
  | .html => "html"
  | .php => "php"
  | .react => "react"

/-- Names are told apart without regard to capitals of ASCII. -/
def Variant.ofName? (name : String) : Option Variant :=
  let lowered := String.ofList (name.toList.map Char.toLower)
  [Variant.html, .php, .react].find? (·.name = lowered)

def unknownVariantMessage (name : String) : String :=
  "unknown variant '" ++ name ++ "', expected one of: html, php, react"

/-- What the pages of a project become. -/
def ProjectType.variant : ProjectType → Variant
  | .react => .react
  | .php => .php
  | .html => .html
  | .nodejs => .html

def Project.variant (project : Project) : Variant :=
  project.type.variant

def Page.compile (options : Options) (page : Page) (project : Project) : Variant → String
  | .html => page.htmlDocument options project
  | .php => page.phpDocument options project
  | .react => page.moduleText options.mode

/-- What a run tells about a page: the click handlers that were left out. -/
inductive Warning
  | inlineHandler (id : String)
  | clickListener (id : String)
  | pathTaken (path : String)

/-- The warnings of compiling a page, in the order of the output. A page module leaves its
handlers out in silence. -/
def Page.warnings (options : Options) (page : Page) : Variant → List Warning
  | .react => []
  | .html | .php =>
    let dropped := page.components.droppedHandlers options.mode
    dropped.map .inlineHandler ++ dropped.map .clickListener

end StaticSite
