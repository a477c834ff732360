import StaticSite.Site.Page

/-!
# Projects

A named collection of pages, with the kind of site that it becomes and its settings.
-/

namespace StaticSite

open Json

/-- What a project is turned into. -/
inductive ProjectType
  | html
  | react
  | php
  | nodejs
  deriving DecidableEq

inductive ProjectStatus
  | draft
  | active
  | completed
  deriving DecidableEq

/-- What pages fall back on in their heads. -/
structure SeoSettings where
  title : String := ""
  description : String := ""
  keywords : List String := []
  ogImage : Option String := none

/-- How the site is brought to its host. -/
inductive Provider
  | cpanel
  | ftp
  | sftp
  deriving DecidableEq

structure DeploymentSettings where
  provider : Provider := .cpanel
  host : String := ""
  username : String := ""
  password : String := ""
  path : String := ""
  port : Option Nat := none
  ssl : Option Bool := none

structure ProjectSettings where
  domain : Option String := none
  ssl : Bool := false
  compression : Bool := false
  cache : Bool := false
  analytics : Bool := false
  seo : SeoSettings := {}
  deployment : DeploymentSettings := {}

structure Project where
  id : String := ""
  name : String := ""
  description : String := ""
  type : ProjectType := .html
  status : ProjectStatus := .draft
  pages : List Page := []
  createdAt : String := ""
  updatedAt : String := ""
  settings : ProjectSettings := {}

/-- The position of the page with this id, or else of the page with this route. -/
def Project.pageIndex? (project : Project) (key : String) : Option Nat :=
  (project.pages.findIdx? (·.id = key)).or (project.pages.findIdx? (·.path = key))

def Project.findPage? (project : Project) (key : String) : Option Page :=
  (project.pageIndex? key).bind (project.pages[·]?)

def Project.addPage (page : Page) (project : Project) : Project :=
  { project with pages := project.pages ++ [page] }

/-! ## Names of the choices -/

def ProjectType.choices : List (String × ProjectType) :=
  [("html", .html), ("react", .react), ("php", .php), ("nodejs", .nodejs)]

def ProjectType.name : ProjectType → String
  | .html => "html"
  | .react => "react"
  | .php => "php"
  | .nodejs => "nodejs"

def ProjectStatus.choices : List (String × ProjectStatus) :=
  [("draft", .draft), ("active", .active), ("completed", .completed)]

def ProjectStatus.name : ProjectStatus → String
  | .draft => "draft"
  | .active => "active"
  | .completed => "completed"

def Provider.choices : List (String × Provider) :=
  [("cpanel", .cpanel), ("ftp", .ftp), ("sftp", .sftp)]

def Provider.name : Provider → String
  | .cpanel => "cpanel"
  | .ftp => "ftp"
  | .sftp => "sftp"

/-! ## Writing -/

def SeoSettings.toValue (s : SeoSettings) : Value :=
  .object
    ([("title", .string s.title), ("description", .string s.description),
        ("keywords", stringsValue s.keywords)] ++
      optionalMember "ogImage" .string s.ogImage)

def DeploymentSettings.toValue (d : DeploymentSettings) : Value :=
  .object
    ([("provider", .string d.provider.name), ("host", .string d.host),
        ("username", .string d.username), ("password", .string d.password),
        ("path", .string d.path)] ++
      optionalMember "port" (fun port => .number (.integer port)) d.port ++
      optionalMember "ssl" .bool d.ssl)

def ProjectSettings.toValue (s : ProjectSettings) : Value :=
  .object
    (optionalMember "domain" .string s.domain ++
      [("ssl", .bool s.ssl), ("compression", .bool s.compression), ("cache", .bool s.cache),
        ("analytics", .bool s.analytics), ("seo", s.seo.toValue),
        ("deployment", s.deployment.toValue)])

def Project.toValue (p : Project) : Value :=
  .object
    [("id", .string p.id), ("name", .string p.name), ("description", .string p.description),
      ("type", .string p.type.name), ("status", .string p.status.name),
      ("pages", .array (p.pages.map Page.toValue)), ("createdAt", .string p.createdAt),
      ("updatedAt", .string p.updatedAt), ("settings", p.settings.toValue)]

/-! ## Reading -/

def readSeoSettings (source : Source) : Reader SeoSettings :=
  readRecord "SeoSettings"
    [.optional "title" readString fun title s => { s with title },
      .optional "description" readString fun description s => { s with description },
      .optional "keywords" (readList readString) fun keywords s => { s with keywords },
      .optional "ogImage" (readOption readString) fun ogImage s => { s with ogImage }]
    {} source

def readDeploymentSettings (source : Source) : Reader DeploymentSettings :=
  readRecord "DeploymentSettings"
    [.optional "provider" (readChoice Provider.choices source) fun provider d =>
        { d with provider },
      .optional "host" readString fun host d => { d with host },
      .optional "username" readString fun username d => { d with username },
      .optional "password" readString fun password d => { d with password },
      .optional "path" readString fun path d => { d with path },
      .optional "port" (readOption readPort) fun port d => { d with port },
      .optional "ssl" (readOption readBool) fun ssl d => { d with ssl }]
    {} source

def readProjectSettings (source : Source) : Reader ProjectSettings :=
  readRecord "ProjectSettings"
    [.optional "domain" (readOption readString) fun domain s => { s with domain },
      .optional "ssl" readBool fun ssl s => { s with ssl },
      .optional "compression" readBool fun compression s => { s with compression },
      .optional "cache" readBool fun cache s => { s with cache },
      .optional "analytics" readBool fun analytics s => { s with analytics },
      .optional "seo" (readSeoSettings source) fun seo s => { s with seo },
      .optional "deployment" (readDeploymentSettings source) fun deployment s =>
        { s with deployment }]
    {} source

def readProject (source : Source) : Reader Project :=
  readRecord "Project"
    [.optional "id" readString fun id p => { p with id },
      .optional "name" readString fun name p => { p with name },
      .optional "description" readString fun description p => { p with description },
      .optional "type" (readChoice ProjectType.choices source) fun type p => { p with type },
      .optional "status" (readChoice ProjectStatus.choices source) fun status p =>
        { p with status },
      .optional "pages" (readList (readPage source)) fun pages p => { p with pages },
      .optional "createdAt" readString fun createdAt p => { p with createdAt },
      .optional "updatedAt" readString fun updatedAt p => { p with updatedAt },
      .optional "settings" (readProjectSettings source) fun settings p => { p with settings }]
    {} source

end StaticSite
