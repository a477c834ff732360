import StaticSite.Component.Codec

/-!
# Pages

A page is a document of its own: a forest of components, raw styles and scripts behind the
generated ones, and what search engines are told.
-/

namespace StaticSite

/-- What the head of the document says about the page. -/
structure PageMeta where
  title : String := ""
  description : String := ""
  keywords : List String := []
  ogImage : Option String := none
  canonical : Option String := none

structure Page where
  id : String := ""
  name : String := ""
  /-- The route, without an extension. -/
  path : String := ""
  title : String := ""
  /-- A text for the editor, which no output shows. -/
  content : String := ""
  components : Forest := []
  styles : String := ""
  scripts : String := ""
  info : PageMeta := {}
  createdAt : String := ""
  updatedAt : String := ""

namespace Json

def stringsValue (strings : List String) : Value :=
  .array (strings.map .string)

end Json

open Json

def PageMeta.toValue (m : PageMeta) : Value :=
  .object
    ([("title", .string m.title), ("description", .string m.description),
        ("keywords", stringsValue m.keywords)] ++
      optionalMember "ogImage" .string m.ogImage ++
      optionalMember "canonical" .string m.canonical)

def Page.toValue (p : Page) : Value :=
  .object
    [("id", .string p.id), ("name", .string p.name), ("path", .string p.path),
      ("title", .string p.title), ("content", .string p.content),
      ("components", p.components.toValue), ("styles", .string p.styles),
      ("scripts", .string p.scripts), ("meta", p.info.toValue),
      ("createdAt", .string p.createdAt), ("updatedAt", .string p.updatedAt)]

def readPageMeta (source : Source) : Reader PageMeta :=
  readRecord "PageMeta"
    [.optional "title" readString fun title m => { m with title },
      .optional "description" readString fun description m => { m with description },
      .optional "keywords" (readList readString) fun keywords m => { m with keywords },
      .optional "ogImage" (readOption readString) fun ogImage m => { m with ogImage },
      .optional "canonical" (readOption readString) fun canonical m => { m with canonical }]
    {} source

def readPage (source : Source) : Reader Page :=
  readRecord "Page"
    [.optional "id" readString fun id p => { p with id },
      .optional "name" readString fun name p => { p with name },
      .optional "path" readString fun path p => { p with path },
      .optional "title" readString fun title p => { p with title },
      .optional "content" readString fun content p => { p with content },
      .optional "components" (readForest source) fun components p => { p with components },
      .optional "styles" readString fun styles p => { p with styles },
      .optional "scripts" readString fun scripts p => { p with scripts },
      .optional "meta" (readPageMeta source) fun m p => { p with info := m },
      .optional "createdAt" readString fun createdAt p => { p with createdAt },
      .optional "updatedAt" readString fun updatedAt p => { p with updatedAt }]
    {} source

/-- An empty page at a route. -/
def Page.atRoute (path title : String) : Page :=
  { path, title }

def Page.withComponent (c : Component) (p : Page) : Page :=
  { p with components := p.components ++ [c] }

end StaticSite
