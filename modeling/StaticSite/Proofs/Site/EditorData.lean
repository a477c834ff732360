import StaticSite.Proofs.Site.Unseen

/-!
# What an editor keeps for itself

Pages and components carry names, routes, dates and settings that are there for the editor. An HTML
or PHP document reads a few texts of its page and the components without their labels, and from the
project only what fills gaps of the head; a page module reads still less. So pages that agree on
this much compile to the same text, whatever else they and their projects hold.
-/

namespace StaticSite

/-! ## Changes of widgets -/

/-- Where a change leaves an output as it is, forests that it makes equal have one output. -/
theorem Forest.output_eq {α : Type} {f : Widget → Widget} {output : Forest → α}
    (hunseen : ∀ forest, output (forest.mapWidgets f) = output forest) {a b : Forest}
    (hsame : a.mapWidgets f = b.mapWidgets f) : output a = output b :=
  calc
    output a = output (a.mapWidgets f) := (hunseen a).symm
    _ = output (b.mapWidgets f) := by rw [hsame]
    _ = output b := hunseen b

def Widget.unlabelled (w : Widget) : Widget :=
  { w with name := "" }

/-- No rule reads the label. -/
theorem Widget.unlabelled_unseen (mode : EscapeMode) : Unseen mode Widget.unlabelled where
  kind _ := rfl
  anchor _ := rfl
  control _ := rfl
  form _ _ := rfl
  markup _ := rfl
  rules _ := rfl
  wiring _ := rfl
  jsx _ := rfl

/-- What page modules read of a widget. -/
def Widget.outline (w : Widget) : Widget :=
  { id := "", kind := w.kind, props := w.props }

theorem Forest.jsxAll_outline (mode : EscapeMode) (forest : Forest) :
    jsxAll mode (forest.mapWidgets Widget.outline) = jsxAll mode forest := by
  have hkind : ∀ w : Widget, w.outline.kind = w.kind := fun _ => rfl
  have hjsx : ∀ w : Widget, w.outline.jsx mode = w.jsx mode := fun _ => rfl
  exact jsxAll_mapWidgets_of hkind hjsx forest

/-! ## Documents -/

/-- Two pages, each in its project, that agree on all that a document of the site shows. -/
structure Page.SameContent (p q : Page) (project other : Project) : Prop where
  title : p.title = q.title
  styles : p.styles = q.styles
  scripts : p.scripts = q.scripts
  description : p.info.description = q.info.description
  keywords : p.info.keywords = q.info.keywords
  ogImage : p.info.ogImage = q.info.ogImage
  canonical : p.info.canonical = q.info.canonical
  components : p.components.mapWidgets Widget.unlabelled =
    q.components.mapWidgets Widget.unlabelled
  siteKeywords : project.settings.seo.keywords = other.settings.seo.keywords
  siteImage : project.settings.seo.ogImage = other.settings.seo.ogImage

namespace Page.SameContent

variable {p q : Page} {project other : Project}

theorem head (h : p.SameContent q project other) : Head.ofPage p project = Head.ofPage q other := by
  unfold Head.ofPage
  rw [h.title, h.description, h.keywords, h.ogImage, h.canonical, h.siteKeywords, h.siteImage]

theorem markup (h : p.SameContent q project other) (mode : EscapeMode) :
    p.components.markup mode = q.components.markup mode :=
  congrArg Html.onLines
    (Forest.output_eq (Widget.unlabelled_unseen mode).markupAll_mapWidgets h.components)

theorem css (h : p.SameContent q project other) (mode : EscapeMode) : p.css mode = q.css mode := by
  have hsame : p.components.stylesheet mode = q.components.stylesheet mode :=
    Forest.output_eq (Widget.unlabelled_unseen mode).stylesheet_mapWidgets h.components
  rw [Page.css, Page.css, hsame, h.styles]

theorem js (h : p.SameContent q project other) (mode : EscapeMode) : p.js mode = q.js mode := by
  have hsame : p.components.script mode = q.components.script mode :=
    Forest.output_eq (Widget.unlabelled_unseen mode).script_mapWidgets h.components
  rw [Page.js, Page.js, hsame, h.scripts]

theorem documentTree (h : p.SameContent q project other) (options : Options)
    (headLines : List Html) :
    p.documentTree options headLines = q.documentTree options headLines := by
  unfold Page.documentTree
  rw [h.css, h.js, h.markup]

end Page.SameContent

/-- Two pages that agree on all that a page module shows. -/
structure Page.SameOutline (p q : Page) : Prop where
  name : p.name = q.name
  title : p.title = q.title
  components : p.components.mapWidgets Widget.outline = q.components.mapWidgets Widget.outline

theorem Page.SameOutline.moduleText {p q : Page} (h : p.SameOutline q) (mode : EscapeMode) :
    p.moduleText mode = q.moduleText mode := by
  have hjsx : jsxAll mode p.components = jsxAll mode q.components :=
    Forest.output_eq (Forest.jsxAll_outline mode) h.components
  have hcomponent : p.componentName = q.componentName := by
    rw [Page.componentName, Page.componentName, h.name, h.title]
  have hclass : p.className = q.className := by
    rw [Page.className, Page.className, h.name]
  have hroot : p.rootElement mode = q.rootElement mode := by
    rw [Page.rootElement, Page.rootElement, hclass, h.title, hjsx]
  unfold Page.moduleText
  rw [hcomponent, hroot]

/-- Nothing that is for the editor alone gets into an HTML or PHP document, or into a page
module. -/
theorem editor_data_unseen (p q : Page) (project other : Project) :
    (p.SameContent q project other → ∀ options,
        p.compile options project .html = q.compile options other .html ∧
          p.compile options project .php = q.compile options other .php) ∧
      (p.SameOutline q → ∀ options otherOptions : Options, options.mode = otherOptions.mode →
        p.compile options project .react = q.compile otherOptions other .react) := by
  constructor
  · intro h options
    constructor
    · rw [Page.compile, Page.compile, Page.htmlDocument, Page.htmlDocument, h.head]
      exact congrArg (writeAll options.mode) (h.documentTree options _)
    · rw [Page.compile, Page.compile, Page.phpDocument, Page.phpDocument, h.head, h.documentTree]
  · intro h options otherOptions hmode
    rw [Page.compile, Page.compile, hmode, h.moduleText]

/-- A heading and a picture of a team, with labels, routes and dates that only the editor shows. -/
def draftPage : Page :=
  { id := "p1", name := "Team", path := "/team", title := "Team", content := "Draft"
    components :=
      [⟨{ id := "s", kind := .section, name := "Main" },
        [⟨{ id := "m", kind := .team, name := "Marie's card", props := [("name", .string "Marie")] },
          []⟩]⟩]
    info := { title := "Our team", description := "Who we are" }
    createdAt := "2024-01-01T00:00:00Z" }

def renamedPage : Page :=
  { name := "Team", title := "Team"
    components :=
      [⟨{ id := "s", kind := .section },
        [⟨{ id := "m", kind := .team, name := "Card", props := [("name", .string "Marie")] }, []⟩]⟩]
    info := { title := "Somebody else", description := "Who we are" } }

def namedSite : Project :=
  { name := "Site", settings := { seo := { title := "Site", description := "All of us" } } }

theorem renamedPage_unseen :
    draftPage.SameContent renamedPage namedSite {} ∧ draftPage.SameOutline renamedPage ∧
      draftPage.compile {} namedSite .php = renamedPage.compile {} {} .php ∧
        draftPage.compile {} namedSite .react = renamedPage.compile { lang := "en" } {} .react := by
  have hcontent : draftPage.SameContent renamedPage namedSite {} := by
    constructor <;> rfl
  have houtline : draftPage.SameOutline renamedPage := by
    constructor <;> rfl
  obtain ⟨hdocuments, hmodules⟩ := editor_data_unseen draftPage renamedPage namedSite {}
  exact ⟨hcontent, houtline, (hdocuments hcontent {}).2, hmodules houtline {} _ rfl⟩

end StaticSite
