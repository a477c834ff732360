import StaticSite.Css.Stylesheet
import StaticSite.Html.Markup
import StaticSite.Script.Wiring
import StaticSite.Site.Project

/-!
# Documents

A page as a whole HTML document: its head, the style sheet, the markup and the script. In
a PHP document a block of PHP in front gives title and description to variables, which the
head shows.
-/

namespace StaticSite

/-- The language of a document where none is set. -/
def defaultLanguage : String := "fr"

/-- What all pages of a run have in common. -/
structure Options where
  lang : String := defaultLanguage
  mode : EscapeMode := .verbatim

/-- What the head of a document says. -/
structure Head where
  title : String
  description : String
  keywords : List String
  ogImage : Option String
  canonical : Option String

def nonEmpty? (text : Option String) : Option String :=
  text.filter (!·.isEmpty)

/-- Title and description are always those of the page. Where the page has no keywords or
no image, the project's are taken. -/
def Head.ofPage (page : Page) (project : Project) : Head where
  title := page.title
  description := page.info.description
  keywords :=
    if page.info.keywords.isEmpty then project.settings.seo.keywords else page.info.keywords
  ogImage := (nonEmpty? page.info.ogImage).or (nonEmpty? project.settings.seo.ogImage)
  canonical := nonEmpty? page.info.canonical

/-- The style sheet of a page; its raw styles come last. -/
def Page.css (mode : EscapeMode) (page : Page) : String :=
  page.components.stylesheet mode ++ "\n" ++ page.styles

/-- The script of a page; its raw script comes last. -/
def Page.js (mode : EscapeMode) (page : Page) : String :=
  page.components.script mode ++ "\n" ++ page.scripts

/-! ## The head -/

/-- A line of the head. -/
def headLine (node : Html) : List Html :=
  [.text "    ", node, .newline]

def metaContent (key name : String) (content : Attribute) : Html :=
  .void "meta" [.quoted key name, content]

/-- The title and the description in an HTML document. -/
def Head.plainTitle (head : Head) : List Html :=
  headLine (.element "title" [] [.text head.title]) ++
    headLine (metaContent "name" "description" (.quoted "content" head.description))

/-- Keywords always, the image and the canonical address where there are any. -/
def Head.extras (head : Head) : List Html :=
  headLine
      (metaContent "name" "keywords"
        (.quoted "content" (String.intercalate ", " head.keywords))) ++
    (match head.ogImage with
      | some image => headLine (metaContent "property" "og:image" (.quoted "content" image))
      | none => []) ++
    (match head.canonical with
      | some address =>
        headLine (.void "link" [.quoted "rel" "canonical", .quoted "href" address])
      | none => [])

/-- A block of PHP that shows a variable. -/
def phpEcho (mode : EscapeMode) (name : String) : String :=
  match mode with
  | .verbatim => "<?php echo $" ++ name ++ "; ?>"
  | .escaped => "<?php echo htmlspecialchars($" ++ name ++ "); ?>"

/-- The title and the description in a PHP document. -/
def phpTitle (mode : EscapeMode) : List Html :=
  headLine (.element "title" [] [.code (phpEcho mode "pageTitle")]) ++
    headLine (metaContent "name" "description" (.code "content" (phpEcho mode "pageDescription")))

/-- The block in front of a PHP document. -/
def Head.phpPreamble (head : Head) : String :=
  "<?php\n// SiteForge generated PHP page\n\n$pageTitle = " ++ Text.phpLiteral head.title ++
    ";\n$pageDescription = " ++ Text.phpLiteral head.description ++ ";\n\n?>\n"

/-! ## The document -/

/-- The document around some lines of the head. -/
def Page.documentTree (options : Options) (headLines : List Html) (page : Page) : List Html :=
  let head : List Html :=
    [.newline] ++ headLine (.void "meta" [.quoted "charset" "UTF-8"]) ++
      headLine
        (metaContent "name" "viewport"
          (.quoted "content" "width=device-width, initial-scale=1.0")) ++
      headLines ++
      headLine (.element "style" [] [.code ("\n" ++ page.css options.mode ++ "\n    ")])
  let body : List Html :=
    [.newline] ++ page.components.markup options.mode ++
      [.text "\n    ", .element "script" [] [.code ("\n" ++ page.js options.mode ++ "\n    ")],
        .newline]
  [.code "<!DOCTYPE html>\n",
    .element "html" [.quoted "lang" options.lang]
      [.newline, .element "head" [] head, .newline, .element "body" [] body, .newline],
    .newline]

def Page.htmlDocument (options : Options) (page : Page) (project : Project) : String :=
  let head := Head.ofPage page project
  writeAll options.mode (page.documentTree options (head.plainTitle ++ head.extras))

def Page.phpDocument (options : Options) (page : Page) (project : Project) : String :=
  (Head.ofPage page project).phpPreamble ++
    writeAll options.mode (page.documentTree options (phpTitle options.mode))

end StaticSite
