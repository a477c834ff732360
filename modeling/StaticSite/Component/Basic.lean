import StaticSite.Component.Kind
import StaticSite.Component.Props

/-!
# Components

A component is a widget, which holds all that belongs to it alone, and its children. A
page is a forest of components.
-/

namespace StaticSite

/-- The place on the canvas, in pixels. -/
structure Position where
  x : Float
  y : Float

/-- Width and height in pixels. -/
structure Size where
  width : Float
  height : Float

/-- Style declarations under camel-case names. -/
abbrev Styles := Json.Members

structure Widget where
  /-- The anchor in the document. -/
  id : String
  kind : Kind
  /-- The label in the editor, which no output shows. -/
  name : String := ""
  props : Props := []
  styles : Styles := []
  position : Option Position := none
  size : Option Size := none

structure Component where
  widget : Widget
  children : List Component

abbrev Forest := List Component

instance : Inhabited Component := ⟨⟨{ id := "", kind := .text }, []⟩⟩

/-- A component without properties, children and styles. -/
def Component.ofKind (id : String) (kind : Kind) : Component :=
  ⟨{ id, kind }, []⟩

def Component.withProp (key : String) (value : Json.Value) (c : Component) : Component :=
  { c with widget := { c.widget with props := c.widget.props.insert key value } }

def Component.withStyle (key : String) (value : Json.Value) (c : Component) : Component :=
  { c with widget := { c.widget with styles := c.widget.styles.insert key value } }

def Component.withChild (c child : Component) : Component :=
  { c with children := c.children ++ [child] }

def Component.placed (x y : Float) (c : Component) : Component :=
  { c with widget := { c.widget with position := some ⟨x, y⟩ } }

def Component.sized (width height : Float) (c : Component) : Component :=
  { c with widget := { c.widget with size := some ⟨width, height⟩ } }

mutual

/-- The number of components of a tree. -/
def Component.count : Component → Nat
  | ⟨_, children⟩ => countForest children + 1

def countForest : List Component → Nat
  | [] => 0
  | c :: rest => c.count + countForest rest

end

theorem Component.count_eq (c : Component) : c.count = countForest c.children + 1 := by
  cases c
  simp [Component.count]

theorem countForest_append (a b : Forest) :
    countForest (a ++ b) = countForest a + countForest b := by
  induction a with
  | nil => simp [countForest]
  | cons c rest ih => simp [countForest, ih, Nat.add_assoc]

end StaticSite
