import StaticSite.Proofs.Html.Templates

/-!
# The events of a forest

What a reader of the markup meets, rule by rule: the tags of each kind with the user's own
strings, or the defaults where there are none. In escaped markup a reader meets exactly these.
-/

namespace StaticSite

open Html Json

/-- The tokens of an element. -/
def Html.Token.enclose (name : String) (attributes : List (String × Option String))
    (inner : List Token) : List Token :=
  .startTag name attributes :: (inner ++ [.endTag name])

open Html.Token

/-! ## Items -/

def linkEvents (item : Value) : List Token :=
  let href := (((item.member? "href").filter (·.isTruthy)).map (·.display)).getD "#"
  enclose "li" [] (enclose "a" [("href", href)] (run (item.memberText "label")))

def imageEvents (image : Value) : List Token :=
  match image with
  | .object _ =>
    [.startTag "img" [("src", image.memberText "src"), ("alt", image.memberText "alt")]]
  | _ => [.startTag "img" [("src", image.text), ("alt", "")]]

def optionEvents (option : Value) : List Token :=
  match option with
  | .object _ =>
    enclose "option" [("value", option.memberValue "value")] (run (option.memberValue "label"))
  | _ => enclose "option" [("value", option.text)] (run option.text)

def statEvents (stat : Value) : List Token :=
  enclose "div" [("class", "stat")]
    (enclose "strong" [] (run (stat.memberText "value")) ++
      enclose "span" [] (run (stat.memberText "label")))

def featureEvents (feature : Value) : List Token :=
  enclose "li" [] (run feature.text)

/-! ## Components -/

/-- The id and the class of a component before other attributes. -/
def Widget.anchored (w : Widget) (others : List (String × Option String)) :
    List (String × Option String) :=
  ("id", some w.id) :: ("class", some (w.kind.tag ++ "-component")) :: others

/-- The events of a field with some attributes in front; none for other kinds. -/
def Widget.fieldEvents (w : Widget) (front : List (String × Option String)) : List Token :=
  let p := w.props
  let name := ("name", some (p.text "name" ""))
  let placeholder := ("placeholder", some (p.text "placeholder" ""))
  let required := if p.flag "required" then [("required", none)] else []
  match w.kind with
  | .input =>
    [.startTag "input" (front ++ ("type", some (p.text "type" "text")) :: name :: placeholder ::
      required)]
  | .textarea => enclose "textarea" (front ++ name :: placeholder :: required) []
  | .select =>
    enclose "select" (front ++ name :: required) ((p.list "options").flatMap optionEvents)
  | _ => []

/-- The events of a component with the events of its children, and its children as fields. -/
def Widget.events (w : Widget) (inner : List Token) (fields : List Widget) : List Token :=
  let p := w.props
  let anchor := w.anchored []
  match w.kind with
  | .text => enclose "p" anchor (run (p.text "content" ""))
  | .heading => enclose ("h" ++ toString p.headingLevel) anchor (run (p.text "content" ""))
  | .image =>
    [.startTag "img"
      [("id", w.id), ("src", p.text "src" ""), ("alt", p.text "alt" ""),
        ("class", "image-component")]]
  | .button => enclose "button" anchor (run (p.text "text" "Button"))
  | .container => enclose "div" anchor inner
  | .section => enclose "section" anchor inner
  | .header => enclose "header" anchor inner
  | .footer => enclose "footer" anchor inner
  | .form =>
    enclose "form"
      (w.anchored [("action", p.text "action" "#"), ("method", p.text "method" "POST")])
      (fields.flatMap (·.fieldEvents []) ++
        enclose "button" [("type", "submit")] (run (p.text "submitText" "Submit")))
  | .input | .textarea | .select => w.fieldEvents anchor
  | .navigation => enclose "nav" anchor (enclose "ul" [] ((p.list "items").flatMap linkEvents))
  | .breadcrumb => enclose "nav" anchor (enclose "ol" [] ((p.list "items").flatMap linkEvents))
  | .video =>
    let controls := if p.flagOr "controls" true then [("controls", none)] else []
    enclose "video" (w.anchored (("src", some (p.text "src" "")) :: controls)) []
  | .gallery =>
    enclose "div" [("id", w.id), ("class", "gallery-component responsive-grid")]
      ((p.list "images").flatMap imageEvents)
  | .map =>
    enclose "div"
      (w.anchored
        [("data-lat", p.coordinate "lat" 0), ("data-lng", p.coordinate "lng" 0),
          ("data-zoom", p.coordinate "zoom" 12)]) []
  | .testimonial =>
    enclose "blockquote" anchor
      (enclose "p" [] (run (p.text "text" "")) ++ enclose "cite" [] (run (p.text "author" "")) ++
        enclose "span" [("class", "rating")] (run (stars p.rating)))
  | .pricing =>
    enclose "div" anchor
      (enclose "h3" [] (run (p.text "title" "")) ++
        enclose "p" [("class", "price")] (run (p.text "price" "")) ++
        enclose "ul" [] ((p.list "features").flatMap featureEvents))
  | .team =>
    enclose "div" anchor
      (.startTag "img" [("src", p.text "image" ""), ("alt", p.text "name" "")] ::
        (enclose "h4" [] (run (p.text "name" "")) ++ enclose "p" [] (run (p.text "role" ""))))
  | .stats => enclose "div" anchor ((p.list "stats").flatMap statEvents)
  | .calendar => enclose "div" (w.anchored [("data-view", p.text "view" "month")]) []
  | .unknown _ => enclose "div" anchor (run (p.text "content" ""))

mutual

def Component.events : Component → List Token
  | ⟨w, children⟩ => w.events (Forest.events children) (children.map (·.widget))

/-- Siblings stand on lines of their own. -/
def Forest.events : Forest → List Token
  | [] => []
  | [c] => c.events
  | c :: d :: rest => c.events ++ .text "\n" :: Forest.events (d :: rest)

end

/-! ## Decoding -/

/-- A token with the entities of its texts and values replaced. -/
def Html.Token.decoded : Token → Token
  | .text s => .text (Text.decodeEntities s)
  | .startTag name attributes =>
    .startTag name (attributes.map fun a => (a.1, a.2.map Text.decodeEntities))
  | .endTag name => .endTag name

/-- The name and the value that a reader of escaped markup gets. -/
def Attribute.meaning (a : Attribute) : String × Option String :=
  (a.name, (a.value? .escaped).map Text.decodeEntities)

/-- The tokens that a reader of escaped markup gets. -/
def Html.meaning (nodes : List Html) : List Token :=
  (tokensAll .escaped nodes).map Token.decoded

@[simp] theorem Attribute.meaning_quoted (name value : String) :
    (Attribute.quoted name value).meaning = (name, some value) := by
  simp [Attribute.meaning, Attribute.name, Attribute.value?, EscapeMode.html]

@[simp] theorem Attribute.meaning_bare (name : String) :
    (Attribute.bare name).meaning = (name, none) := rfl

theorem Html.Token.map_decoded_run (s : String) :
    (run (Text.escapeHtml s)).map decoded = run s := by
  unfold run
  by_cases hs : s = ""
  · subst hs
    rfl
  · have hescaped : Text.escapeHtml s ≠ "" := fun h => hs (Text.escapeHtml_eq_empty.mp h)
    simp [hs, hescaped, decoded]

@[simp] theorem Html.meaning_nil : meaning [] = [] := rfl

@[simp] theorem Html.meaning_text (s : String) (rest : List Html) :
    meaning (.text s :: rest) = run s ++ meaning rest := by
  rw [meaning, tokensAll, Html.tokens, List.map_append]
  exact congrArg (· ++ meaning rest) (Token.map_decoded_run s)

@[simp] theorem Html.meaning_void (tag : String) (attributes : List Attribute)
    (rest : List Html) :
    meaning (.void tag attributes :: rest) =
      .startTag tag (attributes.map (·.meaning)) :: meaning rest := by
  simp [meaning, tokensAll, Html.tokens, decoded, Attribute.meaning, Attribute.pair]

@[simp] theorem Html.meaning_element (tag : String) (attributes : List Attribute)
    (children rest : List Html) :
    meaning (.element tag attributes children :: rest) =
      enclose tag (attributes.map (·.meaning)) (meaning children) ++ meaning rest := by
  simp [meaning, tokensAll, Html.tokens, decoded, Attribute.meaning, Attribute.pair, enclose]

theorem Html.meaning_cons (node : Html) (rest : List Html) :
    meaning (node :: rest) = meaning [node] ++ meaning rest := by
  simp [meaning, tokensAll]

@[simp] theorem Html.meaning_append (a b : List Html) :
    meaning (a ++ b) = meaning a ++ meaning b := by
  induction a with
  | nil => rfl
  | cons node rest ih =>
      rw [List.cons_append, meaning_cons, ih, meaning_cons node rest, List.append_assoc]

/-! ## The rules and their events -/

theorem Html.meaning_map {α : Type} (items : List α) {item : α → Html} {events : α → List Token}
    (h : ∀ x, meaning [item x] = events x) :
    meaning (items.map item) = items.flatMap events := by
  induction items with
  | nil => rfl
  | cons x rest ih => rw [List.map_cons, List.flatMap_cons, meaning_cons, ih, h]

theorem meaning_links (items : List Value) :
    meaning (items.map linkItem) = items.flatMap linkEvents := by
  apply Html.meaning_map
  intro item
  simp [linkItem, linkEvents]

theorem meaning_gallery (images : List Value) :
    meaning (images.map galleryImage) = images.flatMap imageEvents := by
  apply Html.meaning_map
  intro image
  cases image <;> simp [galleryImage, imageEvents, Value.isObject]

theorem meaning_options (options : List Value) :
    meaning (options.map optionItem) = options.flatMap optionEvents := by
  apply Html.meaning_map
  intro option
  cases option <;> simp [optionItem, optionEvents, Value.isObject]

theorem meaning_stats (stats : List Value) :
    meaning (stats.map statItem) = stats.flatMap statEvents := by
  apply Html.meaning_map
  intro stat
  simp [statItem, statEvents]

theorem meaning_features (features : List Value) :
    meaning (features.map fun feature => .element "li" [] [.text feature.text]) =
      features.flatMap featureEvents := by
  apply Html.meaning_map
  intro feature
  simp [featureEvents]

@[simp] theorem Widget.meaning_anchor (w : Widget) :
    w.anchor.map (·.meaning) = w.anchored [] := by
  simp [Widget.anchor, Widget.anchored, Kind.className]

@[simp] theorem Widget.anchored_append (w : Widget) (a b : List (String × Option String)) :
    w.anchored a ++ b = w.anchored (a ++ b) := rfl

theorem Widget.meaning_control? (w : Widget) (front : List Attribute) :
    meaning (w.control? front).toList = w.fieldEvents (front.map (·.meaning)) := by
  have hoptions := meaning_options (w.props.list "options")
  have hrequired : w.props.requiredMark.map (·.meaning) =
      if w.props.flag "required" then [("required", none)] else [] := by
    unfold Props.requiredMark
    split <;> rfl
  unfold Widget.control? Widget.fieldEvents
  cases hk : w.kind <;>
    simp [hoptions, hrequired, Props.fieldName, Props.placeholder]

theorem Widget.meaning_fields (fields : List Widget) :
    meaning (fields.filterMap (·.control? [])) = fields.flatMap (·.fieldEvents []) := by
  induction fields with
  | nil => rfl
  | cons field rest ih =>
      have hfield := field.meaning_control? []
      rw [List.flatMap_cons, ← ih]
      cases hcontrol : field.control? [] with
      | none =>
          rw [hcontrol] at hfield
          simp only [List.filterMap_cons, hcontrol]
          exact congrArg (· ++ _) hfield
      | some node =>
          rw [hcontrol] at hfield
          simp only [List.filterMap_cons, hcontrol]
          rw [meaning_cons]
          exact congrArg (· ++ _) hfield

theorem Widget.meaning_wrapper {w : Widget} (hkind : w.kind.isWrapper = true)
    (children : List Html) (fields : List Widget) :
    meaning [.element w.kind.wrapperTag w.anchor children] =
      w.events (meaning children) fields := by
  unfold Widget.events
  cases hk : w.kind <;> simp [hk, Kind.isWrapper] at hkind <;> simp [Kind.wrapperTag]

theorem Widget.meaning_form {w : Widget} (hkind : w.kind = .form) (inner : List Token)
    (fields : List Widget) : meaning [w.formMarkup fields] = w.events inner fields := by
  have hfields := Widget.meaning_fields fields
  simp [Widget.formMarkup, Widget.events, hkind, hfields]

theorem Widget.meaning_leaf {w : Widget} (hkind : w.kind.acceptsChildren = false)
    (inner : List Token) (fields : List Widget) :
    meaning [w.markup .escaped] = w.events inner fields := by
  have hcontrol := w.meaning_control? w.anchor
  unfold Widget.markup Widget.events
  cases hk : w.kind <;> simp only [hk, Kind.acceptsChildren, Bool.true_eq_false] at hkind
  case input | textarea | select =>
      obtain ⟨node, hnode⟩ := Widget.control?_isSome (w := w) (by rw [hk]; rfl) w.anchor
      rw [hnode, Widget.meaning_anchor] at hcontrol
      simpa [hnode] using hcontrol
  case video =>
      cases hcontrols : w.props.flagOr "controls" true <;>
        simp [hcontrols]
  all_goals
      simp [meaning_links, meaning_gallery, meaning_stats, meaning_features, Widget.buttonMarkup,
        EscapeMode.allowsScript, headingTag, Kind.className, Kind.tag]

theorem Component.meaning_markup_mk (w : Widget) {children : Forest}
    (hchildren : meaning (Forest.markup .escaped children) = Forest.events children) :
    meaning [Component.markup .escaped ⟨w, children⟩] = Component.events ⟨w, children⟩ := by
  rw [Component.events]
  rcases w.kind.cases_by_children with hwrapper | hform | hleaf
  · rw [Component.markup_wrapper .escaped hwrapper, Widget.meaning_wrapper hwrapper, hchildren]
  · rw [Component.markup_form .escaped hform, Widget.meaning_form hform]
  · rw [Component.markup_leaf .escaped hleaf, Widget.meaning_leaf hleaf]

theorem Forest.meaning_markup (forest : Forest) :
    meaning (forest.markup .escaped) = forest.events := by
  induction forest using Forest.induction with
  | nil => rw [Forest.events]; rfl
  | cons w children rest ihChildren ihRest =>
      have hfirst := Component.meaning_markup_mk w ihChildren
      cases rest with
      | nil =>
          rw [Forest.events, ← hfirst]
          simp [Forest.markup, markupAll, Html.onLines]
      | cons d rest =>
          have hlines : Forest.markup .escaped (⟨w, children⟩ :: d :: rest) =
              Component.markup .escaped ⟨w, children⟩ :: Html.newline ::
                Forest.markup .escaped (d :: rest) := by
            simp [Forest.markup, markupAll, Html.onLines]
          rw [Forest.events, ← hfirst, ← ihRest, hlines, meaning_cons, Html.newline,
            Html.meaning_text]
          rfl

/-! ## Reading escaped markup -/

def Html.Token.attributeNames : Token → List String
  | .startTag _ attributes => attributes.map (·.1)
  | _ => []

theorem Html.Token.FromTemplate.no_onclick {token : Token} (h : token.FromTemplate .escaped) :
    "onclick" ∉ token.attributeNames := by
  have htemplates : ∀ template ∈ templates .escaped, "onclick" ∉ template.2 := by decide
  cases token with
  | text s => simp [attributeNames]
  | startTag name attributes => exact htemplates _ h
  | endTag name => simp [attributeNames]

/-- A reader of escaped markup meets the events of the forest, in balanced tags that all come from
the templates, and never a click handler. So no string of the user adds, closes or splits a tag
or an attribute. -/
theorem render_escaped_events (forest : Forest) :
    ∃ tokens, tokenize (forest.render .escaped) = some tokens ∧
      tokens.map decoded = forest.events ∧ Balanced tokens ∧
      ∀ token ∈ tokens, token.FromTemplate .escaped ∧ "onclick" ∉ token.attributeNames := by
  have htemplates := forest.markup_fromTemplates .escaped
  refine ⟨_, forest.tokenize_render_escaped, forest.meaning_markup, htemplates.balanced, ?_⟩
  intro token htoken
  have htemplate := htemplates.tokens token htoken
  exact ⟨htemplate, htemplate.no_onclick⟩

end StaticSite
