import StaticSite.Component.Assembly
import StaticSite.Json.Reader

/-!
# Components as JSON

Reading and writing of components and records. Where a component has no place or size,
its document has none either.
-/

namespace StaticSite

open Json

/-! ## Writing -/

def floatValue (x : Float) : Value :=
  .number (.float x)

def Position.toValue (p : Position) : Value :=
  .object [("x", floatValue p.x), ("y", floatValue p.y)]

def Size.toValue (s : Size) : Value :=
  .object [("width", floatValue s.width), ("height", floatValue s.height)]

/-- A member that is left out where there is no value. -/
def optionalMember {α : Type} (key : String) (write : α → Value) : Option α → Members
  | none => []
  | some a => [(key, write a)]

def Widget.headMembers (w : Widget) : Members :=
  [("id", .string w.id), ("type", .string w.kind.tag), ("name", .string w.name),
    ("props", .object w.props)]

def Widget.tailMembers (w : Widget) : Members :=
  ("styles", .object w.styles) ::
    (optionalMember "position" Position.toValue w.position ++
      optionalMember "size" Size.toValue w.size)

mutual

def Component.toValue : Component → Value
  | ⟨w, children⟩ =>
    .object (w.headMembers ++ ("children", .array (forestToValues children)) :: w.tailMembers)

def forestToValues : List Component → List Value
  | [] => []
  | c :: rest => c.toValue :: forestToValues rest

end

def Forest.toValue (forest : Forest) : Value :=
  .array (forestToValues forest)

def Record.toValue (r : Record) : Value :=
  .object (r.widget.headMembers ++ r.widget.tailMembers ++ optionalMember "parent" .string r.parent)

/-! ## Reading -/

def readPosition (source : Source) : Reader Position :=
  readRecord "Position"
    [.needed "x" readFloat fun x p => { p with x }, .needed "y" readFloat fun y p => { p with y }]
    ⟨0, 0⟩ source

def readSize (source : Source) : Reader Size :=
  readRecord "Size"
    [.needed "width" readFloat fun width s => { s with width },
      .needed "height" readFloat fun height s => { s with height }]
    ⟨0, 0⟩ source

def readKind : Reader Kind := fun budget node =>
  (readString budget node).map Kind.ofTag

def blankWidget : Widget :=
  { id := "", kind := .unknown "" }

def widgetHeadFields {σ : Type} (update : (Widget → Widget) → σ → σ) : List (RecordField σ) :=
  [.needed "id" readString fun id => update fun w => { w with id },
    .needed "type" readKind fun kind => update fun w => { w with kind },
    .optional "name" readString fun name => update fun w => { w with name },
    .optional "props" readMap fun props => update fun w => { w with props }]

def widgetTailFields {σ : Type} (source : Source) (update : (Widget → Widget) → σ → σ) :
    List (RecordField σ) :=
  [.optional "styles" readMap fun styles => update fun w => { w with styles },
    .optional "position" (readOption (readPosition source)) fun position =>
      update fun w => { w with position },
    .optional "size" (readOption (readSize source)) fun size => update fun w => { w with size }]

def Component.mapWidget (f : Widget → Widget) (c : Component) : Component :=
  { c with widget := f c.widget }

def Record.mapWidget (f : Widget → Widget) (r : Record) : Record :=
  { r with widget := f r.widget }

def componentFields (source : Source) (readChild : Reader Component) :
    List (RecordField Component) :=
  widgetHeadFields Component.mapWidget ++
    .optional "children" (readList readChild) (fun children c => { c with children }) ::
      widgetTailFields source Component.mapWidget

/-- Reads a component with at most so many levels below it. -/
def readLevels (source : Source) : (levels : Nat) → Reader Component
  | 0 => fun _ _ => tooDeep
  | levels + 1 =>
    readRecord "Component" (componentFields source (readLevels source levels)) ⟨blankWidget, []⟩
      source

/-- Every level opens an object, so no more levels can come than the budget allows. -/
def readComponent (source : Source) : Reader Component := fun budget =>
  readLevels source (budget + 1) budget

def readForest (source : Source) : Reader Forest :=
  readList (readComponent source)

def recordFields (source : Source) : List (RecordField Record) :=
  widgetHeadFields Record.mapWidget ++ widgetTailFields source Record.mapWidget ++
    [.optional "parent" (readOption readString) fun parent r => { r with parent }]

def readRecordOf (source : Source) : Reader Record :=
  readRecord "ComponentRecord" (recordFields source) { widget := blankWidget } source

def readRecords (source : Source) : Reader (List Record) :=
  readList (readRecordOf source)

end StaticSite
