import StaticSite.Component.Walk
import StaticSite.Html.Tree

/-!
# Markup of components

Every kind has one rule. No property has to be there: each rule has a default for what it
reads, so that a component which is not finished shows as a placeholder.
-/

namespace StaticSite

open Json

/-- The text of a member if it is truthy, or else nothing. -/
def Json.Value.memberText (key : String) (item : Value) : String :=
  (((item.member? key).filter (·.isTruthy)).map (·.display)).getD ""

/-- The text of a value; null has none. -/
def Json.Value.text : Value → String
  | .null => ""
  | value => value.display

/-- The text of a member, also of one that is not truthy. -/
def Json.Value.memberValue (key : String) (item : Value) : String :=
  ((item.member? key).map (·.text)).getD ""

def Json.Value.isObject : Value → Bool
  | .object _ => true
  | _ => false

namespace Props

/-- One of the six levels; the first where there is no proper number. -/
def headingLevel (p : Props) : Nat :=
  match (p.number? "level").filter Decimal.isFinite with
  | some level => Decimal.clampRound 1 6 level
  | none => 1

def rating (p : Props) : Nat :=
  match (p.number? "rating").filter Decimal.isFinite with
  | some rating => Decimal.clampRound 0 5 rating
  | none => 0

def coordinate (p : Props) (key : String) (default : Float) : String :=
  Decimal.plain ((p.number? key).getD default)

end Props

/-! ## Parts of the rules -/

def Kind.className (kind : Kind) : String :=
  kind.tag ++ "-component"

/-- The id and the class of a component. -/
def Widget.anchor (w : Widget) : List Attribute :=
  [.quoted "id" w.id, .quoted "class" w.kind.className]

def headingTag (level : Nat) : String :=
  "h" ++ toString level

def Kind.wrapperTag : Kind → String
  | .section => "section"
  | .header => "header"
  | .footer => "footer"
  | _ => "div"

/-- An entry of a list of links. -/
def linkItem (item : Value) : Html :=
  let href := (((item.member? "href").filter (·.isTruthy)).map (·.display)).getD "#"
  .element "li" [] [.element "a" [.quoted "href" href] [.text (item.memberText "label")]]

def galleryImage (image : Value) : Html :=
  if image.isObject then
    .void "img" [.quoted "src" (image.memberText "src"), .quoted "alt" (image.memberText "alt")]
  else .void "img" [.quoted "src" image.text, .quoted "alt" ""]

def optionItem (option : Value) : Html :=
  if option.isObject then
    .element "option" [.quoted "value" (option.memberValue "value")]
      [.text (option.memberValue "label")]
  else .element "option" [.quoted "value" option.text] [.text option.text]

def statItem (stat : Value) : Html :=
  .element "div" [.quoted "class" "stat"]
    [.element "strong" [] [.text (stat.memberText "value")],
      .element "span" [] [.text (stat.memberText "label")]]

def stars (count : Nat) : String :=
  String.ofList (List.replicate count '★')

/-! ## Fields of forms -/

def Props.requiredMark (p : Props) : List Attribute :=
  if p.flag "required" then [.bare "required"] else []

def Props.fieldName (p : Props) : Attribute :=
  .quoted "name" (p.text "name" "")

def Props.placeholder (p : Props) : Attribute :=
  .quoted "placeholder" (p.text "placeholder" "")

/-- A field with some attributes in front of its own; none for other kinds. -/
def Widget.control? (w : Widget) (front : List Attribute) : Option Html :=
  let p := w.props
  match w.kind with
  | .input =>
    some (.void "input"
      (front ++ .quoted "type" (p.text "type" "text") :: p.fieldName :: p.placeholder ::
        p.requiredMark))
  | .textarea =>
    some (.element "textarea" (front ++ p.fieldName :: p.placeholder :: p.requiredMark) [])
  | .select =>
    some (.element "select" (front ++ p.fieldName :: p.requiredMark)
      ((p.list "options").map optionItem))
  | _ => none

/-- A form shows its fields without anchors, and no other child. -/
def Widget.formMarkup (w : Widget) (fields : List Widget) : Html :=
  let p := w.props
  .element "form"
    (w.anchor ++
      [.quoted "action" (p.text "action" "#"), .quoted "method" (p.text "method" "POST")])
    (fields.filterMap (·.control? []) ++
      [.element "button" [.quoted "type" "submit"] [.text (p.text "submitText" "Submit")]])

/-! ## Components -/

def Widget.buttonMarkup (mode : EscapeMode) (w : Widget) : Html :=
  let handler :=
    if mode.allowsScript then [.code "onclick" (w.props.text "onClick" "")] else []
  .element "button" (w.anchor ++ handler) [.text (w.props.text "text" "Button")]

/-- The markup of a component whose children are not shown. -/
def Widget.markup (mode : EscapeMode) (w : Widget) : Html :=
  let p := w.props
  let anchor := w.anchor
  let container (inner : List Html) := Html.element "div" anchor inner
  match w.kind with
  | .text => .element "p" anchor [.text (p.text "content" "")]
  | .heading => .element (headingTag p.headingLevel) anchor [.text (p.text "content" "")]
  | .image =>
    .void "img"
      [.quoted "id" w.id, .quoted "src" (p.text "src" ""), .quoted "alt" (p.text "alt" ""),
        .quoted "class" w.kind.className]
  | .button => w.buttonMarkup mode
  | .input | .textarea | .select => (w.control? anchor).getD (.text "")
  | .navigation => .element "nav" anchor [.element "ul" [] ((p.list "items").map linkItem)]
  | .breadcrumb => .element "nav" anchor [.element "ol" [] ((p.list "items").map linkItem)]
  | .video =>
    .element "video"
      (anchor ++ .quoted "src" (p.text "src" "") ::
        if p.flagOr "controls" true then [.bare "controls"] else []) []
  | .gallery =>
    .element "div"
      [.quoted "id" w.id, .quoted "class" (w.kind.className ++ " responsive-grid")]
      ((p.list "images").map galleryImage)
  | .map =>
    .element "div"
      (anchor ++
        [.quoted "data-lat" (p.coordinate "lat" 0), .quoted "data-lng" (p.coordinate "lng" 0),
          .quoted "data-zoom" (p.coordinate "zoom" 12)]) []
  | .testimonial =>
    .element "blockquote" anchor
      [.element "p" [] [.text (p.text "text" "")], .element "cite" [] [.text (p.text "author" "")],
        .element "span" [.quoted "class" "rating"] [.text (stars p.rating)]]
  | .pricing =>
    container
      [.element "h3" [] [.text (p.text "title" "")],
        .element "p" [.quoted "class" "price"] [.text (p.text "price" "")],
        .element "ul" []
          ((p.list "features").map fun feature => .element "li" [] [.text feature.text])]
  | .team =>
    let name := p.text "name" ""
    container
      [.void "img" [.quoted "src" (p.text "image" ""), .quoted "alt" name],
        .element "h4" [] [.text name], .element "p" [] [.text (p.text "role" "")]]
  | .stats => container ((p.list "stats").map statItem)
  | .calendar => .element "div" (anchor ++ [.quoted "data-view" (p.text "view" "month")]) []
  | .unknown _ => container [.text (p.text "content" "")]
  | .form => w.formMarkup []
  | .container | .section | .header | .footer => .element w.kind.wrapperTag anchor []

mutual

def Component.markup (mode : EscapeMode) : Component → Html
  | ⟨w, children⟩ =>
    if w.kind.isWrapper then
      .element w.kind.wrapperTag w.anchor (Html.onLines (markupAll mode children))
    else if w.kind = .form then w.formMarkup (children.map (·.widget))
    else w.markup mode

def markupAll (mode : EscapeMode) : List Component → List Html
  | [] => []
  | c :: rest => c.markup mode :: markupAll mode rest

end

/-- The components of a forest on lines of their own. -/
def Forest.markup (mode : EscapeMode) (forest : Forest) : List Html :=
  Html.onLines (markupAll mode forest)

def Forest.render (mode : EscapeMode) (forest : Forest) : String :=
  writeAll mode (forest.markup mode)

/-- The ids of the buttons whose click handlers are left out. -/
def Forest.droppedHandlers (mode : EscapeMode) (forest : Forest) : List String :=
  if mode.allowsScript then []
  else
    (forest.preorder.filter fun c => c.widget.kind = .button && c.widget.props.flag "onClick").map
      (·.widget.id)

end StaticSite
