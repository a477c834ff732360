import StaticSite.Component.Walk
import StaticSite.Css.Block
import StaticSite.Text.Lowercase

/-!
# Style sheets

A page begins with the same rules everywhere. Then every component that has an anchor has
a rule for its id, and texts and headings one more for narrow screens. Values are written
as the editor has them.
-/

namespace StaticSite

open Css

/-- A capital of ASCII begins a new word with a dash in front. -/
def kebabChar (c : Char) : List Char :=
  if 'A' ≤ c && c ≤ 'Z' then '-' :: Text.lowerChar c else Text.lowerChar c

/-- The name of a property in a style sheet for its camel-case name. -/
def kebabCase (name : String) : String :=
  String.ofList (name.toList.flatMap kebabChar)

/-- Screens up to this width are narrow. -/
def mobileBreakpoint : String := "768px"

def mobileCondition : String :=
  "max-width: " ++ mobileBreakpoint

/-- The size of the font on narrow screens where a component has none of its own. -/
def mobileFontSize : String := "14px"

/-- The rules that every page begins with. -/
def preludeBlocks : List Block :=
  [.rule ⟨"*", [⟨"margin", "0"⟩, ⟨"padding", "0"⟩, ⟨"box-sizing", "border-box"⟩]⟩,
    .rule
      ⟨"body",
        [⟨"font-family", "-apple-system, BlinkMacSystemFont, 'Segoe UI', Roboto, sans-serif"⟩,
          ⟨"line-height", "1.6"⟩, ⟨"color", "#333"⟩]⟩,
    .rule ⟨".container", [⟨"max-width", "1200px"⟩, ⟨"margin", "0 auto"⟩, ⟨"padding", "0 20px"⟩]⟩,
    .rule
      ⟨".responsive-grid",
        [⟨"display", "grid"⟩, ⟨"gap", "20px"⟩,
          ⟨"grid-template-columns", "repeat(auto-fit, minmax(300px, 1fr))"⟩]⟩,
    .media mobileCondition
      [⟨".container", [⟨"padding", "0 15px"⟩]⟩,
        ⟨".responsive-grid", [⟨"grid-template-columns", "1fr"⟩]⟩]]

def prelude : String :=
  String.intercalate "\n" (preludeBlocks.map (Block.write .verbatim))

def pixels (x : Float) : String :=
  Decimal.plain x ++ "px"

/-- Where the component stands: on the canvas, or in the flow of the page. -/
def Widget.placement (w : Widget) : List Declaration :=
  match w.position with
  | some p => [⟨"position", "absolute"⟩, ⟨"left", pixels p.x⟩, ⟨"top", pixels p.y⟩]
  | none => [⟨"position", "relative"⟩]

def Widget.dimensions (w : Widget) : List Declaration :=
  match w.size with
  | some s => [⟨"width", pixels s.width⟩, ⟨"height", pixels s.height⟩]
  | none => []

def Widget.styleDeclarations (w : Widget) : List Declaration :=
  w.styles.map fun (name, value) => ⟨kebabCase name, value.display⟩

def Widget.selector (w : Widget) : String :=
  "#" ++ w.id

def Widget.mobileFont (w : Widget) : String :=
  match (Json.Members.get? "fontSize" w.styles).filter (·.isTruthy) with
  | some size => "calc(" ++ size.display ++ " * 0.8)"
  | none => mobileFontSize

/-- The blocks of one component. -/
def Widget.blocks (w : Widget) : List Block :=
  .rule ⟨w.selector, w.placement ++ w.dimensions ++ w.styleDeclarations⟩ ::
    if w.kind.isTypographic then
      [.media mobileCondition [⟨w.selector, [⟨"font-size", w.mobileFont⟩]⟩]]
    else []

def Widget.rules (mode : EscapeMode) (w : Widget) : String :=
  String.join (w.blocks.map (Block.write mode))

def Forest.stylesheet (mode : EscapeMode) (forest : Forest) : String :=
  prelude ++ String.join (forest.preorder.map fun c => "\n" ++ c.widget.rules mode)

end StaticSite
