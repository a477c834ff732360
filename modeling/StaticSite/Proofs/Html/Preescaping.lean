import StaticSite.Proofs.Component.Mapping
import StaticSite.Proofs.Html.Rendering
import StaticSite.Proofs.Html.Templates
import StaticSite.Proofs.Json.Preescaping

/-!
# Escaping the data

Markup can be escaped where it is written, or the data can be escaped before. Apart from buttons,
which may have a handler only where nothing is escaped, both give the same text: every rule takes
its choices from what escaping does not change, and puts texts together as escaping does.
-/

namespace StaticSite

open Json Text

/-! ## Trees -/

@[simp] def Attribute.preescaped : Attribute → Attribute
  | .quoted name value => .quoted name (escapeHtml value)
  | .bare name => .bare name
  | .code name text => .code name text

mutual

/-- A tree with its texts and quoted values escaped. -/
@[simp] def Html.preescaped : Html → Html
  | .text s => .text (escapeHtml s)
  | .code s => .code s
  | .void tag attributes => .void tag (attributes.map Attribute.preescaped)
  | .element tag attributes children =>
    .element tag (attributes.map Attribute.preescaped) (preescapedAll children)

def preescapedAll : List Html → List Html
  | [] => []
  | node :: rest => node.preescaped :: preescapedAll rest

end

@[simp] theorem preescapedAll_eq_map (nodes : List Html) :
    preescapedAll nodes = nodes.map Html.preescaped := by
  induction nodes with
  | nil => rfl
  | cons node rest ih => rw [preescapedAll, ih, List.map_cons]

theorem startTag_preescaped (tag : String) (attributes : List Attribute) :
    startTag .verbatim tag (attributes.map Attribute.preescaped) =
      startTag .escaped tag attributes := by
  have hwrite (a : Attribute) : a.preescaped.write .verbatim = a.write .escaped := by
    cases a <;> rfl
  rw [startTag, startTag, writeAttributes, writeAttributes, List.map_map]
  simp only [Function.comp_def, hwrite]

theorem writeAll_preescaped (nodes : List Html) :
    writeAll .verbatim (nodes.map Html.preescaped) = writeAll .escaped nodes := by
  induction nodes using Html.induction with
  | nil => rfl
  | text s rest ih | code s rest ih =>
      rw [List.map_cons, writeAll, writeAll, ih]
      rfl
  | void tag attributes rest ih =>
      rw [List.map_cons, writeAll, writeAll, ih, Html.preescaped, Html.write, Html.write,
        startTag_preescaped]
  | element tag attributes children rest ihChildren ihRest =>
      rw [List.map_cons, writeAll, writeAll, ihRest, Html.preescaped, Html.write, Html.write,
        startTag_preescaped, preescapedAll_eq_map, ihChildren]

/-! ## Parts of the rules -/

/-- The defaults and the other texts that the rules bring along. -/
abbrev ruleTexts : List String :=
  ["\n", "#", "POST", "submit", "Submit", "text", "month", "stat", "price", "rating",
    "-component", " responsive-grid"]

theorem escapeHtml_ruleText {s : String} (hs : s ∈ ruleTexts) : escapeHtml s = s := by
  have hall : ∀ text ∈ ruleTexts, escapeHtml text = text := by decide
  exact hall s hs

theorem Html.onLines_preescaped (nodes : List Html) :
    Html.onLines (nodes.map Html.preescaped) = (Html.onLines nodes).map Html.preescaped := by
  have hnewline : Html.newline.preescaped = Html.newline :=
    congrArg Html.text (escapeHtml_ruleText (by simp))
  unfold Html.onLines
  induction nodes with
  | nil => rfl
  | cons node rest ih =>
      cases rest with
      | nil => rfl
      | cons next others =>
          simp only [List.map_cons, List.intersperse_cons_cons, hnewline] at ih ⊢
          rw [ih]

@[simp] def Kind.preescaped : Kind → Kind
  | .unknown tag => .unknown (escapeHtml tag)
  | kind => kind

/-- A widget with its id, its tag and the strings of its properties escaped. -/
def Widget.preescaped (w : Widget) : Widget :=
  { w with id := escapeHtml w.id, kind := w.kind.preescaped, props := w.props.preescaped }

theorem Kind.className_preescaped (kind : Kind) :
    kind.preescaped.className = escapeHtml kind.className := by
  have htag : kind.preescaped.tag = escapeHtml kind.tag := by
    cases kind
    case unknown => rfl
    all_goals decide
  have hending : escapeHtml "-component" = "-component" := escapeHtml_ruleText (by simp)
  rw [Kind.className, Kind.className, escapeHtml_append, htag, hending]

theorem Widget.anchor_preescaped (w : Widget) :
    w.preescaped.anchor = w.anchor.map Attribute.preescaped := by
  have hclass : w.preescaped.kind.className = escapeHtml w.kind.className :=
    w.kind.className_preescaped
  rw [Widget.anchor, hclass]
  rfl

@[simp] theorem Props.headingLevel_preescaped (p : Props) :
    p.preescaped.headingLevel = p.headingLevel := by
  simp [Props.headingLevel]

@[simp] theorem Props.rating_preescaped (p : Props) : p.preescaped.rating = p.rating := by
  simp [Props.rating]

@[simp] theorem Props.coordinate_preescaped (p : Props) (key : String) (default : Float) :
    p.preescaped.coordinate key default = escapeHtml (p.coordinate key default) := by
  rw [Props.coordinate, Props.number?_preescaped, Props.coordinate,
    escapeHtml_of_isNumeral (Decimal.isNumeral_plain _)]

theorem escapeHtml_stars (count : Nat) : escapeHtml (stars count) = stars count := by
  apply escapeHtml_of_chars
  intro c hc
  rw [stars, String.toList_ofList] at hc
  rw [List.eq_of_mem_replicate hc]
  rfl

@[simp] theorem linkItem_preescaped (item : Value) :
    linkItem item.preescaped = (linkItem item).preescaped := by
  have hhref : escapeHtml "#" = "#" := escapeHtml_ruleText (by simp)
  unfold linkItem
  rw [Value.member?_preescaped, filter_isTruthy_preescaped, display_or_default_preescaped hhref]
  simp

@[simp] theorem galleryImage_preescaped (image : Value) :
    galleryImage image.preescaped = (galleryImage image).preescaped := by
  unfold galleryImage
  rw [Value.isObject_preescaped]
  split <;> simp

@[simp] theorem optionItem_preescaped (option : Value) :
    optionItem option.preescaped = (optionItem option).preescaped := by
  unfold optionItem
  rw [Value.isObject_preescaped]
  split <;> simp

@[simp] theorem statItem_preescaped (stat : Value) :
    statItem stat.preescaped = (statItem stat).preescaped := by
  simp [statItem, escapeHtml_ruleText]

/-! ## Fields of forms -/

@[simp] theorem Props.requiredMark_preescaped (p : Props) :
    p.preescaped.requiredMark = p.requiredMark.map Attribute.preescaped := by
  unfold Props.requiredMark
  rw [Props.flag_preescaped]
  split <;> rfl

@[simp] theorem Props.fieldName_preescaped (p : Props) :
    p.preescaped.fieldName = p.fieldName.preescaped := by
  simp [Props.fieldName]

@[simp] theorem Props.placeholder_preescaped (p : Props) :
    p.preescaped.placeholder = p.placeholder.preescaped := by
  simp [Props.placeholder]

theorem Widget.control?_preescaped (w : Widget) (front : List Attribute) :
    w.preescaped.control? (front.map Attribute.preescaped) =
      (w.control? front).map Html.preescaped := by
  unfold Widget.control? Widget.preescaped
  cases w.kind <;> simp [Function.comp_def, escapeHtml_ruleText]

theorem Widget.formMarkup_preescaped (w : Widget) (fields : List Widget) :
    w.preescaped.formMarkup (fields.map Widget.preescaped) = (w.formMarkup fields).preescaped := by
  have hprops : w.preescaped.props = w.props.preescaped := rfl
  have hfields : (fields.map Widget.preescaped).filterMap (·.control? []) =
      (fields.filterMap (·.control? [])).map Html.preescaped := by
    rw [List.filterMap_map, List.map_filterMap]
    exact List.filterMap_congr fun field _ => field.control?_preescaped []
  unfold Widget.formMarkup
  rw [hfields, w.anchor_preescaped, hprops]
  simp [escapeHtml_ruleText]

/-! ## Components -/

theorem Kind.wrapperTag_preescaped (kind : Kind) :
    kind.preescaped.wrapperTag = kind.wrapperTag := by
  cases kind <;> rfl

theorem Kind.isWrapper_preescaped (kind : Kind) : kind.preescaped.isWrapper = kind.isWrapper := by
  cases kind <;> rfl

theorem Kind.acceptsChildren_preescaped (kind : Kind) :
    kind.preescaped.acceptsChildren = kind.acceptsChildren := by
  cases kind <;> rfl

theorem Widget.markup_preescaped {w : Widget} (hkind : w.kind ≠ .button) :
    w.preescaped.markup .verbatim = (w.markup .escaped).preescaped := by
  have hprops : w.preescaped.props = w.props.preescaped := rfl
  have hid : w.preescaped.id = escapeHtml w.id := rfl
  have htag : w.preescaped.kind = w.kind.preescaped := rfl
  have hclass := w.kind.className_preescaped
  unfold Widget.markup
  simp only [htag, hprops, hid, w.anchor_preescaped]
  cases hk : w.kind
  case button => contradiction
  case form => exact w.formMarkup_preescaped []
  case input | textarea | select =>
      simp only [Kind.preescaped, w.control?_preescaped]
      cases w.control? w.anchor <;> rfl
  case video =>
      simp only [Kind.preescaped, Props.flagOr_preescaped]
      split <;> simp
  case image =>
      rw [hk] at hclass
      simp [← hclass]
  case gallery =>
      rw [hk] at hclass
      simp [← hclass, Function.comp_def, escapeHtml_append, escapeHtml_ruleText]
  case testimonial => simp [escapeHtml_stars, escapeHtml_ruleText]
  all_goals simp [Kind.wrapperTag, Function.comp_def, escapeHtml_ruleText]

def Forest.preescaped (forest : Forest) : Forest :=
  forest.mapWidgets Widget.preescaped

theorem Component.markup_preescaped_mk {w : Widget} (hkind : w.kind ≠ .button)
    {children : Forest}
    (hchildren : w.kind.isWrapper = true →
      markupAll .verbatim children.preescaped =
        (markupAll .escaped children).map Html.preescaped) :
    Component.markup .verbatim ⟨w.preescaped, children.preescaped⟩ =
      (Component.markup .escaped ⟨w, children⟩).preescaped := by
  rcases w.kind.cases_by_children with hwrapper | hform | hleaf
  · have hmapped : w.preescaped.kind.isWrapper = true := by
      rw [Widget.preescaped, Kind.isWrapper_preescaped, hwrapper]
    have htag : w.preescaped.kind.wrapperTag = w.kind.wrapperTag :=
      w.kind.wrapperTag_preescaped
    rw [Component.markup_wrapper .verbatim hmapped, Component.markup_wrapper .escaped hwrapper,
      Forest.markup, Forest.markup, hchildren hwrapper, Html.onLines_preescaped,
      w.anchor_preescaped, htag, Html.preescaped, preescapedAll_eq_map]
  · have hmapped : w.preescaped.kind = .form := congrArg Kind.preescaped hform
    rw [Component.markup_form .verbatim hmapped, Component.markup_form .escaped hform,
      Forest.preescaped, Forest.mapWidgets_map_widget, w.formMarkup_preescaped]
  · have hmapped : w.preescaped.kind.acceptsChildren = false := by
      rw [Widget.preescaped, Kind.acceptsChildren_preescaped, hleaf]
    rw [Component.markup_leaf .verbatim hmapped, Component.markup_leaf .escaped hleaf,
      Widget.markup_preescaped hkind]

theorem markupAll_preescaped {forest : Forest}
    (hbuttons : ∀ c ∈ forest.preorder, c.widget.kind ≠ .button) :
    markupAll .verbatim forest.preescaped =
      (markupAll .escaped forest).map Html.preescaped := by
  induction forest using Forest.induction with
  | nil =>
      rw [Forest.preescaped, Forest.mapWidgets_nil]
      rfl
  | cons w children rest ihChildren ihRest =>
      rw [Forest.preorder_cons, List.forall_mem_cons, List.forall_mem_append] at hbuttons
      obtain ⟨hkind, hbelow, hbeside⟩ := hbuttons
      -- Below other kinds there may be buttons, and no component is rendered.
      have hchildren : w.kind.isWrapper = true →
          markupAll .verbatim children.preescaped =
            (markupAll .escaped children).map Html.preescaped := by
        intro hwrapper
        rw [if_pos hwrapper] at hbelow
        exact ihChildren hbelow
      rw [Forest.preescaped, Forest.mapWidgets_cons, markupAll, markupAll, List.map_cons]
      exact congrArg₂ _ (Component.markup_preescaped_mk hkind hchildren) (ihRest hbeside)

/-- Where no button is shown, escaping where the markup is written and escaping the data before
give the same text. -/
theorem render_escaped_eq_preescaped {forest : Forest}
    (hbuttons : ∀ c ∈ forest.preorder, c.widget.kind ≠ .button) :
    forest.render .escaped = forest.preescaped.render .verbatim := by
  unfold Forest.render Forest.markup
  rw [markupAll_preescaped hbuttons, Html.onLines_preescaped, writeAll_preescaped]

/-- Special characters wherever a rule reads a text, and buttons that are not shown as such. -/
def specialForest : Forest :=
  [⟨{ id := "a&b", kind := .section },
    [⟨{ id := "\"", kind := .unknown "<x>",
        props := [("content", .array [.string "<", .array [.null, .string "\'"]])] }, []⟩,
      ⟨{ id := "h", kind := .heading, props := [("level", .string "<3>")] },
        [⟨{ id := "b", kind := .button }, []⟩]⟩,
      ⟨{ id := "f", kind := .form, props := [("action", .string "?a&b")] },
        [⟨{ id := "s", kind := .select,
            props := [("options", .array [.object [("value", .string "<"), ("label", .null)]])] },
          []⟩,
          ⟨{ id := "c", kind := .button, props := [("onClick", .string "run()")] }, []⟩]⟩]⟩]

theorem specialForest_preescaped :
    (∀ c ∈ specialForest.preorder, c.widget.kind ≠ .button) ∧
      specialForest.render .escaped = specialForest.preescaped.render .verbatim ∧
      specialForest.render .escaped ≠ specialForest.render .verbatim := by
  have hbuttons : ∀ c ∈ specialForest.preorder, c.widget.kind ≠ .button := by
    simp [specialForest, Kind.isWrapper]
  exact ⟨hbuttons, render_escaped_eq_preescaped hbuttons, by decide +kernel⟩

end StaticSite
