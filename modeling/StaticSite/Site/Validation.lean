import StaticSite.Site.Project

/-!
# Validation

What an editor asks of a project before it is compiled: a proper name, proper routes, and
distinct ids on each page. A project tells all its problems, at most one for its name and
one for each page.
-/

namespace StaticSite

open Text

inductive Problem
  | nameEmpty
  | nameLength
  | nameCharacters
  | pathEmpty
  | pathRelative (path : String)
  | pathCharacters (path : String)
  | tree (page : String) (error : TreeError)

def Problem.message : Problem → String
  | .nameEmpty => "project name is required"
  | .nameLength => "project name must be between 3 and 50 characters"
  | .nameCharacters =>
    "project name may only contain letters, digits, spaces, dashes and underscores"
  | .pathEmpty => "page path is required"
  | .pathRelative path => "page path must start with /: " ++ path
  | .pathCharacters path => "page path contains invalid characters: " ++ path
  | .tree page error => "page " ++ page ++ ": " ++ error.message

/-- Letters and digits of ASCII, dashes and underscores. -/
def isWordCharacter (c : Char) : Bool :=
  c.isAlphanum || c = '-' || c = '_'

def isNameCharacter (c : Char) : Bool :=
  isWordCharacter c || isBlank c

def isPathCharacter (c : Char) : Bool :=
  isWordCharacter c || c = '/'

def nameLengths : Nat × Nat := (3, 50)

def checkName (name : String) : Except Problem Unit :=
  if isBlankText name then .error .nameEmpty
  else if name.length < nameLengths.1 || nameLengths.2 < name.length then .error .nameLength
  else if name.toList.all isNameCharacter then .ok ()
  else .error .nameCharacters

def checkPath (path : String) : Except Problem Unit :=
  if isBlankText path then .error .pathEmpty
  else if path.toList.head? ≠ some '/' then .error (.pathRelative path)
  else if path.toList.all isPathCharacter then .ok ()
  else .error (.pathCharacters path)

/-- How problems name a page. -/
def Page.label (page : Page) : String :=
  if page.id.isEmpty then page.path else page.id

def checkPage (page : Page) : Except Problem Unit := do
  checkPath page.path
  match Index.ofForest page.components with
  | .ok _ => .ok ()
  | .error error => .error (.tree page.label error)

def problemOf : Except Problem Unit → List Problem
  | .ok () => []
  | .error problem => [problem]

def Project.problems (project : Project) : List Problem :=
  problemOf (checkName project.name) ++ project.pages.flatMap fun page => problemOf (checkPage page)

end StaticSite
