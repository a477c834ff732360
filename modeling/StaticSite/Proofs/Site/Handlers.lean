import StaticSite.Proofs.Site.PageElement
import StaticSite.Proofs.Site.Unseen

/-!
# Click handlers

Where texts are escaped, the handlers of the user are left out of the markup, the script and the
page module, each by a rule of its own. No other rule reads the property at all. So a page compiles
to the same documents without its handlers, and pages that have the same rest cannot be told apart.
-/

namespace StaticSite

namespace Json

/-- The members under other keys. -/
def Members.without (key : String) (members : Members) : Members :=
  members.filter fun member => member.1 ≠ key

theorem Members.get?_without {key other : String} (hother : other ≠ key) (members : Members) :
    Members.get? other (members.without key) = Members.get? other members := by
  unfold Members.get? Members.without
  induction members with
  | nil => rfl
  | cons member rest ih =>
      by_cases hkey : member.1 = key
      · have hne : (other == member.1) = false := by simpa [hkey] using hother
        rw [List.filter_cons_of_neg (by simpa using hkey), ih, List.lookup_cons, hne]
      · rw [List.filter_cons_of_pos (by simpa using hkey), List.lookup_cons, List.lookup_cons, ih]

end Json

open Json

/-! ## What the rules read -/

namespace Props

variable {key other : String} (hother : other ≠ key) (p : Props)

include hother

theorem present?_without : Props.present? (p.without key) other = p.present? other := by
  rw [present?, Members.get?_without hother, present?]

@[simp] theorem text_without (default : String) :
    Props.text (p.without key) other default = p.text other default := by
  rw [text, text?, present?_without hother, text, text?]

@[simp] theorem flag_without : Props.flag (p.without key) other = p.flag other := by
  rw [flag, present?_without hother, flag]

@[simp] theorem flagOr_without (default : Bool) :
    Props.flagOr (p.without key) other default = p.flagOr other default := by
  rw [flagOr, Members.get?_without hother, flagOr]

@[simp] theorem number?_without : Props.number? (p.without key) other = p.number? other := by
  rw [number?, present?_without hother, number?]

@[simp] theorem list_without : Props.list (p.without key) other = p.list other := by
  rw [list, Members.get?_without hother, list]

end Props

/-! ## Widgets -/

def Widget.withoutHandler (w : Widget) : Widget :=
  { w with props := w.props.without "onClick" }

@[simp] theorem Widget.withoutHandler_kind (w : Widget) : w.withoutHandler.kind = w.kind := rfl

@[simp] theorem Widget.withoutHandler_anchor (w : Widget) :
    w.withoutHandler.anchor = w.anchor := rfl

theorem Widget.control?_withoutHandler (w : Widget) (front : List Attribute) :
    w.withoutHandler.control? front = w.control? front := by
  unfold Widget.control? Widget.withoutHandler
  cases w.kind <;> simp [Props.fieldName, Props.placeholder, Props.requiredMark]

theorem Widget.formMarkup_withoutHandler (w : Widget) (fields : List Widget) :
    w.withoutHandler.formMarkup fields = w.formMarkup fields := by
  unfold Widget.formMarkup
  rw [w.withoutHandler_anchor]
  simp [Widget.withoutHandler]

theorem Widget.markup_withoutHandler (w : Widget) :
    w.withoutHandler.markup .escaped = w.markup .escaped := by
  unfold Widget.markup
  simp only [Widget.withoutHandler_kind, Widget.withoutHandler_anchor]
  cases w.kind
  case button =>
      -- The only rule that would read the handler.
      have hlabel : w.withoutHandler.props.text "text" "Button" = w.props.text "text" "Button" :=
        Props.text_without (by decide) w.props "Button"
      simp [Widget.buttonMarkup, EscapeMode.allowsScript, hlabel]
  case input | textarea | select =>
      exact congrArg (·.getD (.text "")) (w.control?_withoutHandler w.anchor)
  case form => exact w.formMarkup_withoutHandler []
  all_goals
    simp [Widget.withoutHandler, Props.headingLevel, Props.coordinate, Props.rating]

theorem Widget.jsx_withoutHandler (w : Widget) :
    w.withoutHandler.jsx .escaped = w.jsx .escaped := by
  unfold Widget.jsx
  simp only [Widget.withoutHandler_kind]
  cases w.kind
  case button =>
      rw [w.jsxButton_escaped, w.withoutHandler.jsxButton_escaped]
      simp [Widget.withoutHandler]
  all_goals simp [Widget.withoutHandler, Props.headingLevel]

theorem Widget.withoutHandler_unseen : Unseen .escaped Widget.withoutHandler where
  kind := Widget.withoutHandler_kind
  anchor := Widget.withoutHandler_anchor
  control w := w.control?_withoutHandler []
  form := Widget.formMarkup_withoutHandler
  markup := Widget.markup_withoutHandler
  rules _ := rfl
  -- Buttons are wired only where scripts of the user are allowed.
  wiring _ := rfl
  jsx := Widget.jsx_withoutHandler

/-! ## Documents -/

def Forest.withoutHandlers (forest : Forest) : Forest :=
  forest.mapWidgets Widget.withoutHandler

def Page.withoutHandlers (page : Page) : Page :=
  page.withComponents page.components.withoutHandlers

theorem Page.compile_withoutHandlers (lang : String) (page : Page) (project : Project)
    (variant : Variant) :
    page.withoutHandlers.compile ⟨lang, .escaped⟩ project variant =
      page.compile ⟨lang, .escaped⟩ project variant := by
  have hunseen : Unseen (Options.mode ⟨lang, .escaped⟩) Widget.withoutHandler :=
    Widget.withoutHandler_unseen
  exact Page.compile_mapWidgets hunseen page project variant

/-- Pages that differ in nothing but click handlers, at any depth of the tree, compile to the same
documents. -/
theorem compile_ignores_handlers {p q : Page} (hrest : p.withoutHandlers = q.withoutHandlers)
    (lang : String) (project : Project) (variant : Variant) :
    p.compile ⟨lang, .escaped⟩ project variant = q.compile ⟨lang, .escaped⟩ project variant :=
  calc
    p.compile ⟨lang, .escaped⟩ project variant =
        p.withoutHandlers.compile ⟨lang, .escaped⟩ project variant :=
      (p.compile_withoutHandlers lang project variant).symm
    _ = q.withoutHandlers.compile ⟨lang, .escaped⟩ project variant := by rw [hrest]
    _ = q.compile ⟨lang, .escaped⟩ project variant := q.compile_withoutHandlers lang project variant

def quietPage : Page :=
  { components :=
      [⟨{ id := "s", kind := .section },
        [⟨{ id := "b", kind := .button, props := [("text", .string "Go")] }, []⟩,
          ⟨{ id := "t", kind := .text }, []⟩]⟩] }

/-- With handlers of all sorts, also where no handler has a use. -/
def listeningPage : Page :=
  { components :=
      [⟨{ id := "s", kind := .section, props := [("onClick", .null)] },
        [⟨{ id := "b", kind := .button,
            props := [("onClick", .string "leave()"), ("text", .string "Go")] }, []⟩,
          ⟨{ id := "t", kind := .text, props := [("onClick", .object [("run", .bool true)])] },
            []⟩]⟩] }

theorem listeningPage_quiet :
    listeningPage.withoutHandlers = quietPage.withoutHandlers ∧
      listeningPage.compile ⟨"en", .escaped⟩ {} .php = quietPage.compile ⟨"en", .escaped⟩ {} .php ∧
      listeningPage.components.render .verbatim ≠ quietPage.components.render .verbatim := by
  have hrest : listeningPage.withoutHandlers = quietPage.withoutHandlers := rfl
  exact ⟨hrest, compile_ignores_handlers hrest "en" {} .php, by decide +kernel⟩

end StaticSite
