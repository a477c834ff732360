import StaticSite.Proofs.Jsx.Reading

/-!
# The element of a page module

The element that a page module returns has a fixed set of tags, and its containers of code hold
nothing but comments. In escaped mode a reader meets these as long as no text of the page has a
brace. Escaping is the one of HTML, which leaves braces as they are, and so a brace in a text
begins or ends a container.
-/

namespace StaticSite

open Text (Flow textRun textChars joinTexts)
open Jsx.Token (enclose)
open Jsx (Token BraceFree StaysComment readElement contentsAll LegibleAll)

/-! ## The events of an element -/

/-- The comment for a kind that is only named. -/
def Kind.named (kind : Kind) : String :=
  "/* " ++ String.ofList (commentSafe kind.tag.toList) ++ " component */"

def Widget.elementEvents (w : Widget) (inner : List Token) : List Token :=
  let p := w.props
  match w.kind with
  | .text => enclose "p" [] (textRun (p.text "content" ""))
  | .heading => enclose ("h" ++ toString p.headingLevel) [] (textRun (p.text "content" ""))
  | .image => [.startTag "img" [("src", p.text "src" ""), ("alt", p.text "alt" "")], .endTag "img"]
  | .button => enclose "button" [] (textRun (p.text "text" "Button"))
  | .container => enclose "div" [] inner
  | .section => enclose "section" [] inner
  | .header => enclose "header" [] inner
  | .footer => enclose "footer" [] inner
  | kind => enclose "div" [] [.container kind.named]

mutual

def Component.elementEvents : Component → List Token
  | ⟨w, children⟩ => w.elementEvents (Forest.elementEvents children)

/-- Siblings stand on lines of their own. -/
def Forest.elementEvents : Forest → List Token
  | [] => []
  | [c] => c.elementEvents
  | c :: d :: rest => c.elementEvents ++ textRun "\n" ++ Forest.elementEvents (d :: rest)

end

def elementLine (tokens : List Token) : List Token :=
  textRun "\n      " ++ tokens

def Page.elementEvents (page : Page) : List Token :=
  enclose "div" [("className", some page.className)]
    (elementLine (enclose "h1" [] (textRun page.title)) ++
      elementLine [.container "/* Generated components */"] ++
      page.components.flatMap (fun c => elementLine c.elementEvents) ++ textRun "\n    ")

/-! ## Reading it -/

theorem Kind.legible_placeholder (kind : Kind) : kind.placeholder.Legible := by
  have hword : StaysComment " component".toList := by
    simp [StaysComment]
  refine ⟨by decide, by simp, ?_, trivial⟩
  rw [Jsx.Legible, String.toList_append, String.toList_ofList]
  exact Jsx.staysComment_append (Jsx.staysComment_commentSafe _) hword (by simp)

theorem Kind.contents_placeholder (kind : Kind) :
    kind.placeholder.contents = enclose "div" [] [.container kind.named] := by
  have hend : " component" ++ " */" = " component */" := rfl
  simp [Kind.placeholder, Jsx.contents, contentsAll, Kind.named, String.append_assoc, hend]

theorem headingTag_isName : ∀ level ∈ [1, 2, 3, 4, 5, 6],
    Html.isName (headingTag level) = true := by
  decide

/-- Click handlers are left out. -/
theorem Widget.jsxButton_escaped (w : Widget) :
    w.jsxButton .escaped = .element "button" [] [.text (w.props.text "text" "Button")] := by
  unfold Widget.jsxButton
  split <;> rfl

theorem Widget.legible_jsx (w : Widget) : (w.jsx .escaped).Legible := by
  unfold Widget.jsx
  cases hk : w.kind
  case heading =>
      have hname := headingTag_isName _ w.props.headingLevel_mem
      exact ⟨hname, by simp, trivial, trivial⟩
  case text => exact ⟨by decide, by simp, trivial, trivial⟩
  case image =>
      have hsource : Html.isName "src" = true := by decide
      have halternative : Html.isName "alt" = true := by decide
      refine ⟨by decide, ?_⟩
      simp only [List.forall_mem_cons, List.not_mem_nil, false_implies, implies_true, and_true]
      exact ⟨hsource, halternative⟩
  case button =>
      rw [w.jsxButton_escaped]
      exact ⟨by decide, by simp, trivial, trivial⟩
  all_goals exact Kind.legible_placeholder _

theorem Widget.contents_jsx {w : Widget} (hkind : w.kind.isWrapper = false) (inner : List Token) :
    (w.jsx .escaped).contents = w.elementEvents inner := by
  unfold Widget.jsx Widget.elementEvents
  cases hk : w.kind <;> simp only [hk, Kind.isWrapper, Bool.true_eq_false] at hkind
  case text | heading => simp [Jsx.contents, contentsAll, headingTag]
  case image => simp [Jsx.contents, Jsx.Attribute.meaning, Jsx.Attribute.toHtml]
  case button => simp [w.jsxButton_escaped, Jsx.contents, contentsAll]
  all_goals exact Kind.contents_placeholder _

theorem Jsx.legibleAll_onLines {nodes : List Jsx} (h : LegibleAll nodes) :
    LegibleAll (nodes.intersperse (.text "\n")) := by
  induction nodes with
  | nil => trivial
  | cons node rest ih =>
      cases rest with
      | nil => exact h
      | cons next rest => exact ⟨h.1, trivial, ih h.2⟩

theorem Jsx.legibleAll_lines {nodes : List Jsx} (h : LegibleAll nodes) :
    LegibleAll (nodes.flatMap jsxLine) := by
  induction nodes with
  | nil => trivial
  | cons node rest ih => exact ⟨trivial, h.1, ih h.2⟩

theorem Component.legible_jsx_mk (w : Widget) {children : Forest}
    (hchildren : LegibleAll (jsxAll .escaped children)) :
    (Component.jsx .escaped ⟨w, children⟩).Legible := by
  rw [Component.jsx]
  by_cases hwrapper : w.kind.isWrapper = true
  · have htag : Html.isName w.kind.wrapperTag = true := by
      unfold Kind.wrapperTag
      split <;> decide
    rw [if_pos hwrapper]
    exact ⟨htag, by simp, Jsx.legibleAll_onLines hchildren⟩
  · rw [if_neg hwrapper]
    exact w.legible_jsx

theorem legibleAll_jsxAll (forest : Forest) : LegibleAll (jsxAll .escaped forest) := by
  induction forest using Forest.induction with
  | nil => trivial
  | cons w children rest ihChildren ihRest =>
      exact ⟨Component.legible_jsx_mk w ihChildren, ihRest⟩

theorem Component.contents_jsx_mk (w : Widget) {children : Forest}
    (hchildren : contentsAll ((jsxAll .escaped children).intersperse (.text "\n")) =
      Forest.elementEvents children) :
    (Component.jsx .escaped ⟨w, children⟩).contents = Component.elementEvents ⟨w, children⟩ := by
  rw [Component.jsx, Component.elementEvents]
  by_cases hwrapper : w.kind.isWrapper = true
  · rw [if_pos hwrapper, Jsx.contents, hchildren]
    unfold Widget.elementEvents
    cases hk : w.kind <;> simp [hk, Kind.isWrapper] at hwrapper <;> rfl
  · rw [if_neg hwrapper, Widget.contents_jsx (Bool.not_eq_true _ ▸ hwrapper)]

theorem Forest.contents_jsx (forest : Forest) :
    contentsAll ((jsxAll .escaped forest).intersperse (.text "\n")) = forest.elementEvents := by
  induction forest using Forest.induction with
  | nil =>
      rw [Forest.elementEvents]
      rfl
  | cons w children rest ihChildren ihRest =>
      have hfirst := Component.contents_jsx_mk w ihChildren
      cases rest with
      | nil => simp [jsxAll, contentsAll, hfirst, Forest.elementEvents]
      | cons d rest =>
          rw [jsxAll] at ihRest
          simp only [jsxAll, List.intersperse_cons_cons, contentsAll, hfirst, ihRest, Jsx.contents,
            Forest.elementEvents, List.append_assoc]

theorem Component.contents_jsx (c : Component) : (c.jsx .escaped).contents = c.elementEvents := by
  obtain ⟨w, children⟩ := c
  exact Component.contents_jsx_mk w (Forest.contents_jsx children)

theorem Forest.contents_jsxLines (forest : Forest) :
    contentsAll ((jsxAll .escaped forest).flatMap jsxLine) =
      forest.flatMap fun c => elementLine c.elementEvents := by
  induction forest with
  | nil => rfl
  | cons c rest ih =>
      rw [jsxAll, List.flatMap_cons, Jsx.contentsAll_append, ih, List.flatMap_cons]
      simp [jsxLine, contentsAll, Jsx.contents, elementLine, c.contents_jsx]

theorem Page.legible_rootElement (page : Page) : LegibleAll [page.rootElement .escaped] := by
  have hline {node : Jsx} (h : node.Legible) : LegibleAll (jsxLine node) := ⟨trivial, h, trivial⟩
  have hlines := Jsx.legibleAll_lines (legibleAll_jsxAll page.components)
  have htitle : (Jsx.element "h1" [] [.text page.title]).Legible :=
    ⟨by decide, by simp, trivial, trivial⟩
  have hgenerated : (Jsx.comment "Generated components").Legible := by
    simp [Jsx.Legible, StaysComment]
  have hclass : Html.isName "className" = true := by decide
  refine ⟨⟨by decide, by simpa [Jsx.Attribute.Legible] using hclass, ?_⟩, trivial⟩
  simp only [Jsx.legibleAll_append]
  exact ⟨⟨⟨hline htitle, hline hgenerated⟩, hlines⟩, trivial, trivial⟩

theorem Page.contents_rootElement (page : Page) :
    contentsAll [page.rootElement .escaped] = page.elementEvents := by
  have hline (node : Jsx) : contentsAll (jsxLine node) = elementLine node.contents := by
    simp [jsxLine, contentsAll, Jsx.contents, elementLine]
  have hclass : (Jsx.Attribute.quoted "className" page.className).meaning =
      ("className", some page.className) := by
    simp [Jsx.Attribute.meaning, Jsx.Attribute.toHtml]
  have hgenerated : "/* " ++ "Generated components" ++ " */" = "/* Generated components */" := by
    decide
  simp only [contentsAll, Page.rootElement, Jsx.contents, Jsx.contentsAll_append, hline,
    Forest.contents_jsxLines, List.map_cons, List.map_nil, hclass, hgenerated,
    Page.elementEvents, List.append_nil]

/-! ## What is fixed in it -/

/-- The tags of an element with the names of their attributes. -/
def elementTags : List (String × List String) :=
  [("div", ["className"]), ("div", []), ("h1", []), ("h2", []), ("h3", []), ("h4", []), ("h5", []),
    ("h6", []), ("p", []), ("img", ["src", "alt"]), ("button", []), ("section", []),
    ("header", []), ("footer", [])]

/-- Code of which all is one comment. -/
def IsComment (code : String) : Prop :=
  ∃ inner, code = "/*" ++ inner ++ "*/" ∧ StaysComment (inner.toList ++ ['*'])

theorem isComment_generated : IsComment "/* Generated components */" := by
  refine ⟨" Generated components ", by decide, ?_⟩
  simp [StaysComment]

theorem Kind.isComment_named (kind : Kind) : IsComment kind.named := by
  have hword : StaysComment " component *".toList := by
    simp [StaysComment]
  have hstays := Jsx.staysComment_append (Jsx.staysComment_commentSafe kind.tag.toList) hword
    (by simp)
  refine ⟨" " ++ String.ofList (commentSafe kind.tag.toList) ++ " component ", ?_, ?_⟩
  · rw [Kind.named, ← String.toList_inj]
    simp
  · have hfront : StaysComment (' ' :: (commentSafe kind.tag.toList ++ " component *".toList)) :=
      List.isChain_cons.mpr ⟨by simp, hstays⟩
    simpa using hfront

def Jsx.Token.IsFixed : Token → Prop
  | .markup (.text _) => True
  | .markup (.startTag name attributes) => (name, attributes.map (·.1)) ∈ elementTags
  | .markup (.endTag name) => name ∈ elementTags.map (·.1)
  | .container code =>
    code = "/* Generated components */" ∨ ∃ kind : Kind, code = kind.named

section Fixed

variable {inner : List Token} (hinner : ∀ token ∈ inner, token.IsFixed)

theorem textRun_fixed (s : String) : ∀ token ∈ (textRun s : List Token), token.IsFixed := by
  intro token htoken
  unfold textRun at htoken
  split_ifs at htoken
  · cases htoken
  · obtain rfl := List.mem_singleton.mp htoken
    trivial

include hinner

theorem enclose_fixed {name : String} {attributes : List (String × Option String)}
    (htag : (name, attributes.map (·.1)) ∈ elementTags) :
    ∀ token ∈ enclose name attributes inner, token.IsFixed := by
  intro token htoken
  rcases List.mem_cons.mp htoken with rfl | htoken
  · exact htag
  · rcases List.mem_append.mp htoken with hmem | hend
    · exact hinner token hmem
    · obtain rfl := List.mem_singleton.mp hend
      exact List.mem_map_of_mem htag

theorem elementLine_fixed : ∀ token ∈ elementLine inner, token.IsFixed := by
  intro token htoken
  rcases List.mem_append.mp htoken with htext | hmem
  · exact textRun_fixed _ token htext
  · exact hinner token hmem

theorem Widget.elementEvents_fixed (w : Widget) :
    ∀ token ∈ w.elementEvents inner, token.IsFixed := by
  have hheading : ∀ level ∈ [1, 2, 3, 4, 5, 6], (headingTag level, []) ∈ elementTags := by
    decide
  have hnamed : ∀ token ∈ [Token.container w.kind.named], token.IsFixed := by
    simp [Jsx.Token.IsFixed]
  unfold Widget.elementEvents
  cases hk : w.kind
  case heading => exact enclose_fixed (textRun_fixed _) (hheading _ w.props.headingLevel_mem)
  case text | button => exact enclose_fixed (textRun_fixed _) (by decide)
  case image =>
      simp [Jsx.Token.IsFixed, Jsx.Token.startTag, Jsx.Token.endTag, elementTags]
  case container | «section» | header | footer => exact enclose_fixed hinner (by decide)
  all_goals
      rw [hk] at hnamed
      exact enclose_fixed hnamed (by decide)

end Fixed

theorem Forest.elementEvents_fixed (forest : Forest) :
    ∀ token ∈ forest.elementEvents, token.IsFixed := by
  induction forest using Forest.induction with
  | nil => simp [Forest.elementEvents]
  | cons w children rest ihChildren ihRest =>
      have hfirst : ∀ token ∈ Component.elementEvents ⟨w, children⟩, token.IsFixed := by
        rw [Component.elementEvents]
        exact w.elementEvents_fixed ihChildren
      cases rest with
      | nil =>
          rw [Forest.elementEvents]
          exact hfirst
      | cons d rest =>
          rw [Forest.elementEvents]
          simp only [List.forall_mem_append]
          exact ⟨⟨hfirst, textRun_fixed _⟩, ihRest⟩

theorem Page.elementEvents_fixed (page : Page) : ∀ token ∈ page.elementEvents, token.IsFixed := by
  have hgenerated : ∀ token ∈ [Token.container "/* Generated components */"], token.IsFixed := by
    simp [Jsx.Token.IsFixed]
  have hcomponents : ∀ token ∈ page.components.flatMap (fun c => elementLine c.elementEvents),
      token.IsFixed := by
    intro token htoken
    obtain ⟨c, _, hmem⟩ := List.mem_flatMap.mp htoken
    have hc := Forest.elementEvents_fixed [c]
    rw [Forest.elementEvents] at hc
    exact elementLine_fixed hc token hmem
  refine enclose_fixed ?_ (by simp [elementTags])
  simp only [List.forall_mem_append]
  exact ⟨⟨⟨elementLine_fixed (enclose_fixed (textRun_fixed _) (by decide)),
    elementLine_fixed hgenerated⟩, hcomponents⟩, textRun_fixed _⟩

/-! ## Braces -/

/-- The element that the function of a page module returns. -/
def Page.returned (mode : EscapeMode) (page : Page) : String :=
  (page.rootElement mode).write mode

theorem IsIdentifier.append {a b : String} (ha : IsIdentifier a)
    (hb : b.toList.all isIdentifierCharacter = true) : IsIdentifier (a ++ b) := by
  obtain ⟨hchars, c, hhead, hdigit⟩ := ha
  constructor
  · rw [String.toList_append, List.all_append, hchars, hb]
    rfl
  · exact ⟨c, by simp [List.head?_append, hhead], hdigit⟩

/-- A page module defines a function under the name of the page, which returns an element with fixed
tags whose containers hold only comments. The element is read as its events if no text of the page
has a brace, and only then. -/
theorem page_element_events (page : Page) :
    (∃ name, IsIdentifier name ∧
      page.moduleText .escaped =
        "import React from 'react';\n\nconst " ++ name ++
          ": React.FC = () => \x7b\n  return (\n    " ++ page.returned .escaped ++
          "\n  );\n\x7d;\n\nexport default " ++ name ++ ";\n") ∧
      (∀ token ∈ page.elementEvents, token.IsFixed) ∧
      (∀ code, .container code ∈ page.elementEvents → IsComment code) ∧
      (readElement (page.returned .escaped) = some (joinTexts page.elementEvents) ↔
        BraceFree (page.elementEvents.flatMap textChars)) := by
  have hname : IsIdentifier (page.componentName ++ "Page") :=
    (isIdentifier_identifierOf _).append (by decide)
  refine ⟨⟨_, hname, rfl⟩, page.elementEvents_fixed, ?_, ?_⟩
  · intro code hcode
    rcases page.elementEvents_fixed _ hcode with rfl | ⟨kind, rfl⟩
    · exact isComment_generated
    · exact kind.isComment_named
  · have hwritten : page.returned .escaped = Jsx.writeAll .escaped [page.rootElement .escaped] := by
      simp [Page.returned, Jsx.writeAll]
    rw [hwritten, ← page.contents_rootElement]
    exact Jsx.readElement_iff page.legible_rootElement

def scriptedPage : Page :=
  { title := "\x7balert(1)\x7d" }

/-- Escaping leaves the braces of a title as they are, and the title is a container of code. -/
theorem title_opens_container :
    ∃ tokens, readElement (scriptedPage.returned .escaped) = some tokens ∧
      .container "alert(1)" ∈ tokens ∧ ¬ IsComment "alert(1)" := by
  have hread : readElement (scriptedPage.returned .escaped) = some
      (enclose "div" [("className", some "index-page")]
        (textRun "\n      " ++ enclose "h1" [] [.container "alert(1)"] ++ textRun "\n      " ++
          [.container "/* Generated components */"] ++ textRun "\n    ")) := by
    decide +kernel
  refine ⟨_, hread, by simp [enclose], ?_⟩
  rintro ⟨inner, hcode, -⟩
  have hhead := congrArg (·.toList.head?) hcode
  simp at hhead

end StaticSite
