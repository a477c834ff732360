import StaticSite.Proofs.Html.Legibility
import StaticSite.Proofs.Site.Inlining

/-!
# Reading HTML documents

In escaped mode a reader of the document of a page meets a fixed skeleton: the head with the title,
the description and what else there is, one style sheet, the events of the components, and one
script. The texts of the user fill its places, and none of them adds a tag.
-/

namespace StaticSite

open Html Html.Token Text

/-! ## The skeleton -/

def headLineEvents (tokens : List Token) : List Token :=
  .text "    " :: (tokens ++ [.text "\n"])

def metaEvents (key name content : String) : List Token :=
  headLineEvents [.startTag "meta" [(key, some name), ("content", some content)]]

def Head.events (head : Head) : List Token :=
  headLineEvents (enclose "title" [] (run head.title)) ++
    metaEvents "name" "description" head.description ++
    metaEvents "name" "keywords" (String.intercalate ", " head.keywords) ++
    (match head.ogImage with
      | some image => metaEvents "property" "og:image" image
      | none => []) ++
    (match head.canonical with
      | some address =>
        headLineEvents [.startTag "link" [("rel", some "canonical"), ("href", some address)]]
      | none => [])

/-- An element that holds a style sheet or a script on lines of its own. -/
def rawEvents (name generated raw : String) : List Token :=
  enclose name [] [.text ("\n" ++ (generated ++ "\n" ++ raw) ++ "\n    ")]

/-- The events of a document, with a text for each that the template writes. -/
def Page.documentEvents (lang : String) (page : Page) (project : Project) : List Token :=
  .text "\n" :: (enclose "html" [("lang", some lang)]
    (.text "\n" :: (enclose "head" []
      (.text "\n" :: (headLineEvents [.startTag "meta" [("charset", some "UTF-8")]] ++
        metaEvents "name" "viewport" "width=device-width, initial-scale=1.0" ++
        (Head.ofPage page project).events ++
        headLineEvents (rawEvents "style" (page.components.stylesheet .escaped) page.styles))) ++
      .text "\n" :: (enclose "body" []
        (.text "\n" :: (page.components.events ++ .text "\n    " ::
          (rawEvents "script" (page.components.script .escaped) page.scripts ++
            [.text "\n"]))) ++
        [.text "\n"]))) ++ [.text "\n"])

/-! ## Reading it -/

theorem legible_element {tag : String} {attributes : List Attribute} {children : List Html}
    (hname : isName tag = true) (hmarkup : contentOf tag = .markup)
    (hattributes : ∀ a ∈ attributes, a.Readable .escaped) (hchildren : LegibleAll children) :
    (Html.element tag attributes children).Legible := by
  refine ⟨hname, hattributes, ?_⟩
  rwa [if_pos hmarkup]

theorem contents_element {tag : String} (hmarkup : contentOf tag = .markup)
    (attributes : List Attribute) (children : List Html) :
    (Html.element tag attributes children).contents =
      enclose tag (attributes.map (·.meaning)) (contentsAll children) := by
  rw [Html.contents, if_pos hmarkup]

theorem legibleAll_headLine {node : Html} (h : node.Legible) : LegibleAll (headLine node) :=
  ⟨trivial, h, trivial, trivial⟩

theorem contentsAll_headLine (node : Html) :
    contentsAll (headLine node) = headLineEvents node.contents := by
  simp [headLine, headLineEvents, contentsAll, Html.contents, run, Html.newline]

theorem legible_meta (key name content : String) (hkey : isName key = true) :
    (metaContent key name (.quoted "content" content)).Legible := by
  refine ⟨by decide, by decide, ?_⟩
  simp only [List.forall_mem_cons, List.not_mem_nil, false_implies, implies_true, and_true]
  exact ⟨readable_quoted hkey name, readable_quoted (by decide) content⟩

theorem contents_meta (key name content : String) :
    (metaContent key name (.quoted "content" content)).contents =
      [.startTag "meta" [(key, some name), ("content", some content)]] := by
  simp [metaContent, Html.contents]

section Raw

variable (name generated raw : String) (hraw : contentOf name = .raw)

include hraw

theorem legible_raw (hname : isName name = true) (hgenerated : AngleFree generated)
    (h : AngleFree raw) :
    (Html.element name [] [.code ("\n" ++ (generated ++ "\n" ++ raw) ++ "\n    ")]).Legible := by
  have hmarkup : contentOf name ≠ .markup := by simp [hraw]
  refine ⟨hname, by simp, ?_⟩
  rw [if_neg hmarkup]
  have hcontent : AngleFree ("\n" ++ (generated ++ "\n" ++ raw) ++ "\n    ") := by
    simp only [angleFree_append]
    exact ⟨⟨by decide, ⟨hgenerated, by decide⟩, h⟩, by decide⟩
  simpa [AngleFree, writeAll, Html.write] using hcontent

theorem contents_raw :
    (Html.element name [] [.code ("\n" ++ (generated ++ "\n" ++ raw) ++ "\n    ")]).contents =
      rawEvents name generated raw := by
  have hmarkup : contentOf name ≠ .markup := by simp [hraw]
  have htext (s : String) : contentText name s = s := by
    rw [contentText, hraw]
  simp [Html.contents, hmarkup, htext, writeAll, Html.write, rawEvents, run]

end Raw

theorem Head.legible (head : Head) : LegibleAll (head.plainTitle ++ head.extras) := by
  have htitle : (Html.element "title" [] [.text head.title]).Legible := by
    have htext : AngleFree (EscapeMode.escaped.html head.title) :=
      (harmless_escapeHtml head.title).angle
    refine ⟨by decide, by simp, ?_⟩
    rw [if_neg (by decide)]
    simpa [AngleFree, writeAll, Html.write] using htext
  have hlink (address : String) :
      (Html.void "link" [.quoted "rel" "canonical", .quoted "href" address]).Legible := by
    refine ⟨by decide, by decide, ?_⟩
    simp only [List.forall_mem_cons, List.not_mem_nil, false_implies, implies_true, and_true]
    exact ⟨readable_quoted (by decide) _, readable_quoted (by decide) _⟩
  have hmeta {key : String} (hkey : isName key = true) (name content : String) :
      LegibleAll (headLine (metaContent key name (.quoted "content" content))) :=
    legibleAll_headLine (legible_meta key name content hkey)
  simp only [Head.plainTitle, Head.extras, legibleAll_append]
  refine ⟨⟨legibleAll_headLine htitle, hmeta (by decide) _ _⟩, ⟨hmeta (by decide) _ _, ?_⟩, ?_⟩
  · cases head.ogImage with
    | none => trivial
    | some image => exact hmeta (by decide) _ _
  · cases head.canonical with
    | none => trivial
    | some address => exact legibleAll_headLine (hlink address)

theorem Head.contents (head : Head) :
    contentsAll (head.plainTitle ++ head.extras) = head.events := by
  have htitle : (Html.element "title" [] [.text head.title]).contents =
      enclose "title" [] (run head.title) := by
    have htext : contentText "title" (writeAll .escaped [.text head.title]) = head.title := by
      simp [writeAll, Html.write, contentText, contentOf, EscapeMode.html]
    rw [Html.contents, if_neg (by decide), htext]
    rfl
  simp only [Head.plainTitle, Head.extras, Head.events, metaEvents, contentsAll_append,
    contentsAll_headLine, contents_meta, htitle, List.append_assoc]
  cases head.ogImage <;> cases head.canonical <;>
    simp [contentsAll, contentsAll_headLine, contents_meta, Html.contents]

/-- The document without its type. -/
def Page.documentNodes (lang : String) (page : Page) (project : Project) : List Html :=
  let head := Head.ofPage page project
  .newline :: (page.documentTree ⟨lang, .escaped⟩ (head.plainTitle ++ head.extras)).tail

theorem Page.htmlDocument_eq (lang : String) (page : Page) (project : Project) :
    page.htmlDocument ⟨lang, .escaped⟩ project =
      doctype ++ writeAll .escaped (page.documentNodes lang project) := by
  have hbreak : "<!DOCTYPE html>\n" = doctype ++ EscapeMode.escaped.html "\n" := by decide
  simp only [Page.htmlDocument, Page.documentNodes, Page.documentTree, List.tail_cons, writeAll,
    Html.write, Html.newline, hbreak, String.append_assoc]

theorem Page.legible_documentNodes (lang : String) (page : Page) (project : Project)
    (hstyles : AngleFree page.styles) (hscripts : AngleFree page.scripts) :
    LegibleAll (page.documentNodes lang project) := by
  have hlines := (Head.ofPage page project).legible
  have hcharset : (Html.void "meta" [.quoted "charset" "UTF-8"]).Legible := by
    refine ⟨by decide, by decide, ?_⟩
    simpa using readable_quoted (by decide) "UTF-8"
  have hviewport := legible_meta "name" "viewport" "width=device-width, initial-scale=1.0"
    (by decide)
  have hstyle := legible_raw "style" _ _ (by decide) (by decide)
    page.components.angleFree_stylesheet hstyles
  have hscript := legible_raw "script" _ _ (by decide) (by decide)
    page.components.angleFree_script hscripts
  have hlang : ∀ a ∈ [Attribute.quoted "lang" lang], a.Readable .escaped := by
    simpa using readable_quoted (by decide) lang
  refine ⟨trivial, legible_element (by decide) (by decide) hlang ?_, trivial, trivial⟩
  refine ⟨trivial, legible_element (by decide) (by decide) (by simp) ?_, trivial,
    legible_element (by decide) (by decide) (by simp) ?_, trivial, trivial⟩
  · simp only [List.cons_append, legibleAll_append, LegibleAll, Html.newline, Legible, true_and]
    exact ⟨⟨⟨legibleAll_headLine hcharset, legibleAll_headLine hviewport⟩,
      legibleAll_append.mp hlines⟩, legibleAll_headLine hstyle⟩
  · simp only [List.cons_append, legibleAll_append, LegibleAll, Html.newline, Legible, true_and,
      and_true]
    exact ⟨page.components.legible, hscript⟩

theorem Page.contents_documentNodes (lang : String) (page : Page) (project : Project) :
    contentsAll (page.documentNodes lang project) = page.documentEvents lang project := by
  have hlines := (Head.ofPage page project).contents
  have hstyle := contents_raw "style" (page.components.stylesheet .escaped) page.styles (by decide)
  have hscript := contents_raw "script" (page.components.script .escaped) page.scripts (by decide)
  have hbody := page.components.contents_markup
  have hcharset : (Html.void "meta" [.quoted "charset" "UTF-8"]).contents =
      [.startTag "meta" [("charset", some "UTF-8")]] := by
    simp [Html.contents]
  have hbreak : (Html.text "\n").contents = [.text "\n"] := by
    rw [Html.contents]
    rfl
  have hmargin : (Html.text "\n    ").contents = [.text "\n    "] := by
    rw [Html.contents]
    rfl
  have htags : ∀ tag ∈ ["html", "head", "body"], ∀ attributes children,
      (Html.element tag attributes children).contents =
        enclose tag (attributes.map (·.meaning)) (contentsAll children) := by
    intro tag htag attributes children
    have hmarkup : ∀ tag ∈ ["html", "head", "body"], contentOf tag = .markup := by decide
    exact contents_element (hmarkup tag htag) attributes children
  simp only [List.forall_mem_cons] at htags
  rw [contentsAll_append] at hlines
  simp only [Page.documentNodes, Page.documentTree, Page.css, Page.js, List.tail_cons, contentsAll,
    contentsAll_append, contentsAll_headLine, contents_meta, Html.newline, hbreak, hmargin, htags,
    hlines, hstyle, hscript, hbody, hcharset, List.cons_append, List.nil_append, List.map_cons,
    List.map_nil, Attribute.meaning_quoted, Page.documentEvents, metaEvents]

theorem Page.readDocument_html (lang : String) (page : Page) (project : Project)
    (hstyles : AngleFree page.styles) (hscripts : AngleFree page.scripts) :
    readDocument (page.htmlDocument ⟨lang, .escaped⟩ project) =
      some (joinTexts (page.documentEvents lang project)) := by
  rw [page.htmlDocument_eq,
    readDocument_of_legible (page.legible_documentNodes lang project hstyles hscripts),
    page.contents_documentNodes]

/-! ## The tags of the skeleton -/

def Html.Token.opens (name : String) : Token → Bool
  | .startTag tag _ => tag = name
  | _ => false

@[simp] theorem Html.Token.opens_text (name s : String) : opens name (.text s) = false := rfl

@[simp] theorem Html.Token.opens_startTag (name tag : String)
    (attributes : List (String × Option String)) :
    opens name (.startTag tag attributes) = decide (tag = name) := rfl

@[simp] theorem Html.Token.opens_endTag (name tag : String) :
    opens name (.endTag tag) = false := rfl

theorem Html.Token.opens_of_text (name : String) (token : Token) (s : String)
    (htext : text? token = some s) : token.opens name = false := by
  cases token with
  | text t => rfl
  | startTag tag attributes => cases htext
  | endTag tag => rfl

theorem Html.startTag_mem_joinTexts {tokens : List Token} {name : String}
    {attributes : List (String × Option String)} :
    .startTag name attributes ∈ joinTexts tokens ↔ .startTag name attributes ∈ tokens := by
  have hfilter := filter_joinTexts (opens_of_text name) tokens
  have hmem := congrArg (Token.startTag name attributes ∈ ·) hfilter
  simpa using hmem

/-- The tags of the skeleton, which no rule for components writes. -/
def skeletonTags : List String :=
  ["html", "head", "meta", "title", "link", "style", "body", "script"]

theorem Forest.events_opens (forest : Forest) :
    ∀ token ∈ forest.events, ∀ name ∈ skeletonTags, token.opens name = false := by
  have hnames : ∀ template ∈ templates .escaped, ∀ name ∈ skeletonTags, template.1 ≠ name := by
    decide
  rw [← forest.meaning_markup]
  intro token htoken name hname
  obtain ⟨written, hwritten, rfl⟩ := List.mem_map.mp htoken
  have htemplate := (forest.markup_fromTemplates .escaped).tokens written hwritten
  cases written with
  | text s => rfl
  | startTag tag attributes => simpa [decoded, opens] using hnames _ htemplate name hname
  | endTag tag => rfl

theorem Page.documentEvents_opens (lang : String) (page : Page) (project : Project) :
    ∀ name ∈ ["html", "head", "title", "style", "body", "script"],
      (page.documentEvents lang project).countP (·.opens name) = 1 := by
  have hbody : ∀ name ∈ skeletonTags, page.components.events.countP (·.opens name) = 0 := by
    intro name hname
    rw [List.countP_eq_zero]
    intro token htoken
    simp [page.components.events_opens token htoken name hname]
  have hrun (name s : String) : (run s).countP (·.opens name) = 0 := by
    unfold run
    split <;> rfl
  simp only [skeletonTags, List.forall_mem_cons, List.not_mem_nil, false_implies, implies_true,
    and_true] at hbody ⊢
  simp only [Page.documentEvents, Head.events, headLineEvents, metaEvents, rawEvents, enclose]
  cases (Head.ofPage page project).ogImage <;> cases (Head.ofPage page project).canonical <;>
    simp only [List.countP_cons, List.countP_append, List.countP_nil, opens_text, opens_startTag,
      opens_endTag, hbody, hrun] <;> simp

/-- A reader of the document of a page meets the skeleton with the user's texts in their places,
if the raw styles and scripts have no `<`: what is generated never has one. The components add no
tag of the skeleton, so there is one title, one style sheet and one script. -/
theorem html_document_events (lang : String) (page : Page) (project : Project) :
    AngleFree (page.components.stylesheet .escaped) ∧
      AngleFree (page.components.script .escaped) ∧
      (∀ token ∈ page.components.events, ∀ name ∈ skeletonTags, token.opens name = false) ∧
      (AngleFree page.styles → AngleFree page.scripts →
        ∃ tokens, readDocument (page.htmlDocument ⟨lang, .escaped⟩ project) = some tokens ∧
          tokens = joinTexts (page.documentEvents lang project) ∧
          ∀ name ∈ ["html", "head", "title", "style", "body", "script"],
            tokens.countP (·.opens name) = 1) := by
  refine ⟨page.components.angleFree_stylesheet, page.components.angleFree_script,
    page.components.events_opens, ?_⟩
  intro hstyles hscripts
  refine ⟨_, page.readDocument_html lang project hstyles hscripts, rfl, ?_⟩
  intro name hname
  rw [List.countP_eq_length_filter, filter_joinTexts (opens_of_text name),
    ← List.countP_eq_length_filter]
  exact page.documentEvents_opens lang project name hname

/-- A page whose texts try to end what they stand in. -/
def breakoutPage : Page :=
  { title := "</title><script>alert(1)</script>"
    info := { description := "\"><script>", canonical := some "https://example.com/?a&b" }
    components := [⟨{ id := "</style>", kind := .form }, []⟩]
    styles := "p > a \x7bcolor: red\x7d"
    scripts := "go(1 > 0);" }

theorem breakoutPage_events : AngleFree breakoutPage.styles ∧ AngleFree breakoutPage.scripts ∧
    ∃ tokens, readDocument (breakoutPage.htmlDocument ⟨"en", .escaped⟩ {}) = some tokens ∧
      tokens = joinTexts (breakoutPage.documentEvents "en" {}) ∧
      ∀ name ∈ ["html", "head", "title", "style", "body", "script"],
        tokens.countP (·.opens name) = 1 := by
  have hstyles : AngleFree breakoutPage.styles := by decide
  have hscripts : AngleFree breakoutPage.scripts := by decide
  exact ⟨hstyles, hscripts,
    (html_document_events "en" breakoutPage {}).2.2.2 hstyles hscripts⟩

def canonicalPage : Page :=
  { info := { canonical := some "https://example.com/" } }

/-- The canonical address stands in a link, and in no meta element. -/
theorem canonical_in_link :
    ∃ tokens, readDocument (canonicalPage.htmlDocument ⟨"en", .escaped⟩ {}) = some tokens ∧
      .startTag "link" [("rel", some "canonical"), ("href", some "https://example.com/")] ∈
        tokens ∧
      ∀ attributes, .startTag "meta" attributes ∈ tokens →
        ("content", some "https://example.com/") ∉ attributes := by
  refine ⟨_, canonicalPage.readDocument_html "en" {} (by decide) (by decide), ?_⟩
  have hhead : Head.ofPage canonicalPage {} = ⟨"", "", [], none, some "https://example.com/"⟩ := rfl
  simp only [startTag_mem_joinTexts, Page.documentEvents, hhead]
  simp [Head.events, headLineEvents, metaEvents, rawEvents, enclose, canonicalPage, Forest.events,
    show run "" = [] from rfl]

end StaticSite
