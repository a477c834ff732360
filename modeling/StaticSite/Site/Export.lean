import StaticSite.Site.Compile
import StaticSite.Site.Scaffold

/-!
# Exporting a project

All pages of a project with the scaffold files beside them, as a map from relative paths
to contents. Where two pages have one path, the later page is kept.
-/

namespace StaticSite

/-- Paths with their contents, in ascending order of the paths. -/
abbrev FileMap := List (String × String)

/-- The order of the code points of two paths is also that of their bytes. -/
def FileMap.insert (path content : String) : FileMap → FileMap
  | [] => [(path, content)]
  | (p, c) :: rest =>
    if path = p then (path, content) :: rest
    else if path < p then (path, content) :: (p, c) :: rest
    else (p, c) :: FileMap.insert path content rest

def FileMap.get? (files : FileMap) (path : String) : Option String :=
  files.lookup path

def FileMap.insertAll (files : FileMap) (entries : List (String × String)) : FileMap :=
  entries.foldl (fun files (path, content) => files.insert path content) files

def FileMap.ofList (entries : List (String × String)) : FileMap :=
  FileMap.insertAll [] entries

/-- A route without the slashes around it; the root has a name of its own. -/
def routeStem (path : String) : String :=
  let isSlash (c : Char) : Bool := c = '/'
  match ((path.toList.dropWhile isSlash).reverse.dropWhile isSlash).reverse with
  | [] => "index"
  | stem => String.ofList stem

/-- The path of a page in the exported site. -/
def Page.file (page : Page) : Variant → String
  | .react => "src/pages/" ++ page.componentName ++ ".tsx"
  | .php => routeStem page.path ++ ".php"
  | .html => routeStem page.path ++ ".html"

def Project.pageFiles (options : Options) (project : Project) : List (String × String) :=
  project.pages.map fun page =>
    (page.file project.variant, page.compile options project project.variant)

def Project.export (options : Options) (project : Project) : FileMap :=
  (FileMap.ofList project.scaffold).insertAll (project.pageFiles options)

/-- The paths that are there already when their page comes, in order. -/
def takenPaths (taken : List String) : List String → List String
  | [] => []
  | path :: rest =>
    if taken.contains path then path :: takenPaths taken rest
    else takenPaths (path :: taken) rest

/-- The warnings of compiling all pages, and of paths that are used again. -/
def Project.exportWarnings (options : Options) (project : Project) : List Warning :=
  project.pages.flatMap (·.warnings options project.variant) ++
    (takenPaths (project.scaffold.map (·.1)) (project.pages.map (·.file project.variant))).map
      .pathTaken

end StaticSite
