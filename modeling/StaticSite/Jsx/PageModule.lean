import StaticSite.Html.Markup
import StaticSite.Jsx.Tree
import StaticSite.Site.Page
import StaticSite.Text.Lowercase

/-!
# Page modules

A page as a function component: a starting point in which every component has a simple
shape, and the kinds without one are only named in a comment.
-/

namespace StaticSite

/-- Puts a blank between a star and a slash behind it, so that no comment ends there. -/
def commentSafe : List Char → List Char
  | [] => []
  | '*' :: '/' :: rest => '*' :: ' ' :: '/' :: commentSafe rest
  | c :: rest => c :: commentSafe rest

/-- A kind that is only named. -/
def Kind.placeholder (kind : Kind) : Jsx :=
  .element "div" [] [.comment (String.ofList (commentSafe kind.tag.toList) ++ " component")]

def Widget.jsxButton (mode : EscapeMode) (w : Widget) : Jsx :=
  let handler :=
    match w.props.text? "onClick" with
    | some code => if mode.allowsScript then [Jsx.Attribute.handler "onClick" code] else []
    | none => []
  .element "button" handler [.text (w.props.text "text" "Button")]

def Widget.jsx (mode : EscapeMode) (w : Widget) : Jsx :=
  let p := w.props
  match w.kind with
  | .text => .element "p" [] [.text (p.text "content" "")]
  | .heading => .element (headingTag p.headingLevel) [] [.text (p.text "content" "")]
  | .image =>
    .selfClosing "img" [.quoted "src" (p.text "src" ""), .quoted "alt" (p.text "alt" "")]
  | .button => w.jsxButton mode
  | kind => kind.placeholder

mutual

def Component.jsx (mode : EscapeMode) : Component → Jsx
  | ⟨w, children⟩ =>
    if w.kind.isWrapper then
      .element w.kind.wrapperTag [] ((jsxAll mode children).intersperse (.text "\n"))
    else w.jsx mode

def jsxAll (mode : EscapeMode) : List Component → List Jsx
  | [] => []
  | c :: rest => c.jsx mode :: jsxAll mode rest

end

/-! ## Modules -/

def isIdentifierCharacter (c : Char) : Bool :=
  c.isAlphanum || c = '_' || c = '$'

/-- The characters of a name that an identifier may have; one that would begin with a digit
gets a word in front, and an empty one a name of its own. -/
def identifierOf (name : String) : String :=
  match name.toList.filter isIdentifierCharacter with
  | [] => "Index"
  | c :: rest =>
    if c.isDigit then "Page" ++ String.ofList (c :: rest) else String.ofList (c :: rest)

/-- A name that a variable may have. -/
structure IsIdentifier (name : String) : Prop where
  chars : name.toList.all isIdentifierCharacter = true
  head : ∃ c, name.toList.head? = some c ∧ c.isDigit = false

theorem isIdentifier_identifierOf (name : String) : IsIdentifier (identifierOf name) := by
  unfold identifierOf
  cases hfilter : name.toList.filter isIdentifierCharacter with
  | nil => exact ⟨by decide, 'I', rfl, by decide⟩
  | cons c rest =>
      have hchars : (c :: rest).all isIdentifierCharacter = true := by
        rw [← hfilter, List.all_filter]
        simp
      by_cases hdigit : c.isDigit = true
      · simp only [hdigit, if_true]
        refine ⟨?_, 'P', by simp, by decide⟩
        simp only [String.toList_append, String.toList_ofList, List.all_append, Bool.and_eq_true]
        exact ⟨by decide, hchars⟩
      · simp only [hdigit, Bool.false_eq_true, if_false]
        refine ⟨?_, c, by simp, by simpa using hdigit⟩
        rwa [String.toList_ofList]

/-- The name of the component that a page becomes. A blank name gives way to the title. -/
def Page.componentName (page : Page) : String :=
  identifierOf (if Text.isBlankText page.name then page.title else page.name)

/-- Words in lower case, with dashes between them. -/
def slug (name : String) : String :=
  String.intercalate "-" (Text.words (Text.lower name))

def Page.className (page : Page) : String :=
  let name := slug page.name
  (if name.isEmpty then "index" else name) ++ "-page"

/-- The beginning of a line inside the returned element. -/
def jsxLine (node : Jsx) : List Jsx :=
  [.text "\n      ", node]

/-- The element that the function component returns. -/
def Page.rootElement (mode : EscapeMode) (page : Page) : Jsx :=
  .element "div" [.quoted "className" page.className]
    (jsxLine (.element "h1" [] [.text page.title]) ++ jsxLine (.comment "Generated components") ++
      (jsxAll mode page.components).flatMap jsxLine ++ [.text "\n    "])

def Page.moduleText (mode : EscapeMode) (page : Page) : String :=
  let name := page.componentName ++ "Page"
  "import React from 'react';\n\nconst " ++ name ++ ": React.FC = () => \x7b\n  return (\n    " ++
    (page.rootElement mode).write mode ++ "\n  );\n\x7d;\n\nexport default " ++ name ++ ";\n"

end StaticSite
