import StaticSite.Proofs.Component.Preorder
import StaticSite.Proofs.Html.Events

/-!
# The anchors of the markup

The markup has one `id` attribute for every component that the walk visits, in the order of the
walk. Fields inside forms and the elements inside a component have none.
-/

namespace StaticSite

open Html

/-- The values of the `id` attributes of a token. -/
def Html.Token.ids : Token → List String
  | .startTag _ attributes =>
    attributes.filterMap fun a => if a.1 = "id" then some (a.2.getD "") else none
  | _ => []

/-- The values of the `id` attributes of siblings and below, as they are written. -/
def Html.anchors (mode : EscapeMode) (nodes : List Html) : List String :=
  (tokensAll mode nodes).flatMap Token.ids

def Attribute.anchors (mode : EscapeMode) (attributes : List Attribute) : List String :=
  Token.ids (.startTag "" (attributes.map (·.pair mode)))

section Anchors

variable (mode : EscapeMode)

@[simp] theorem Html.anchors_nil : anchors mode [] = [] := rfl

@[simp] theorem Html.anchors_text (s : String) (rest : List Html) :
    anchors mode (.text s :: rest) = anchors mode rest := by
  unfold anchors
  rw [tokensAll, Html.tokens, List.flatMap_append]
  unfold Token.run
  split <;> simp [Token.ids]

@[simp] theorem Html.anchors_void (tag : String) (attributes : List Attribute)
    (rest : List Html) :
    anchors mode (.void tag attributes :: rest) =
      Attribute.anchors mode attributes ++ anchors mode rest := by
  simp [anchors, tokensAll, Html.tokens, Attribute.anchors, Token.ids]

@[simp] theorem Html.anchors_element (tag : String) (attributes : List Attribute)
    (children rest : List Html) :
    anchors mode (.element tag attributes children :: rest) =
      Attribute.anchors mode attributes ++ (anchors mode children ++ anchors mode rest) := by
  simp [anchors, tokensAll, Html.tokens, Attribute.anchors, Token.ids]

theorem Html.anchors_cons (node : Html) (rest : List Html) :
    anchors mode (node :: rest) = anchors mode [node] ++ anchors mode rest := by
  simp [anchors, tokensAll]

theorem Html.anchors_append (a b : List Html) :
    anchors mode (a ++ b) = anchors mode a ++ anchors mode b := by
  induction a with
  | nil => rfl
  | cons node rest ih =>
      rw [List.cons_append, anchors_cons, ih, anchors_cons mode node rest, List.append_assoc]

theorem Html.anchors_eq_nil {nodes : List Html} (h : ∀ node ∈ nodes, anchors mode [node] = []) :
    anchors mode nodes = [] := by
  induction nodes with
  | nil => rfl
  | cons node rest ih =>
      rw [anchors_cons, h node List.mem_cons_self,
        ih fun n hn => h n (List.mem_cons_of_mem node hn), List.append_nil]

theorem Html.anchors_map {α : Type} (items : List α) {item : α → Html}
    (h : ∀ x, anchors mode [item x] = []) : anchors mode (items.map item) = [] := by
  apply Html.anchors_eq_nil
  intro node hnode
  obtain ⟨x, _, rfl⟩ := List.mem_map.mp hnode
  exact h x

@[simp] theorem Attribute.anchors_nil : Attribute.anchors mode [] = [] := rfl

@[simp] theorem Attribute.anchors_append (a b : List Attribute) :
    Attribute.anchors mode (a ++ b) = Attribute.anchors mode a ++ Attribute.anchors mode b := by
  simp [Attribute.anchors, Token.ids]

@[simp] theorem Attribute.anchors_quoted (name value : String) (rest : List Attribute) :
    Attribute.anchors mode (.quoted name value :: rest) =
      (if name = "id" then [mode.html value] else []) ++ Attribute.anchors mode rest := by
  by_cases hname : name = "id" <;>
    simp [Attribute.anchors, Token.ids, Attribute.pair, Attribute.name, Attribute.value?, hname]

@[simp] theorem Attribute.anchors_bare (name : String) (rest : List Attribute) :
    Attribute.anchors mode (.bare name :: rest) =
      (if name = "id" then [""] else []) ++ Attribute.anchors mode rest := by
  by_cases hname : name = "id" <;>
    simp [Attribute.anchors, Token.ids, Attribute.pair, Attribute.name, Attribute.value?, hname]

@[simp] theorem Attribute.anchors_code (name s : String) (rest : List Attribute) :
    Attribute.anchors mode (.code name s :: rest) =
      (if name = "id" then [s] else []) ++ Attribute.anchors mode rest := by
  by_cases hname : name = "id" <;>
    simp [Attribute.anchors, Token.ids, Attribute.pair, Attribute.name, Attribute.value?, hname]

/-! ## The rules of the kinds -/

@[simp] theorem Widget.anchors_anchor (w : Widget) :
    Attribute.anchors mode w.anchor = [mode.html w.id] := by
  simp [Widget.anchor]

theorem anchors_links (items : List Json.Value) : anchors mode (items.map linkItem) = [] := by
  apply Html.anchors_map
  intro item
  simp [linkItem]

theorem anchors_gallery (images : List Json.Value) :
    anchors mode (images.map galleryImage) = [] := by
  apply Html.anchors_map
  intro image
  unfold galleryImage
  split <;> simp

theorem anchors_options (options : List Json.Value) :
    anchors mode (options.map optionItem) = [] := by
  apply Html.anchors_map
  intro option
  unfold optionItem
  split <;> simp

theorem anchors_stats (stats : List Json.Value) : anchors mode (stats.map statItem) = [] := by
  apply Html.anchors_map
  intro stat
  simp [statItem]

theorem anchors_features (features : List Json.Value) :
    anchors mode (features.map fun feature => .element "li" [] [.text feature.text]) = [] := by
  apply Html.anchors_map
  intro feature
  simp

theorem Widget.anchors_control {w : Widget} {front : List Attribute} {node : Html}
    (hcontrol : w.control? front = some node) :
    anchors mode [node] = Attribute.anchors mode front := by
  have hoptions := anchors_options mode (w.props.list "options")
  have hrequired : Attribute.anchors mode w.props.requiredMark = [] := by
    unfold Props.requiredMark
    split <;> simp
  unfold Widget.control? at hcontrol
  cases hk : w.kind <;> simp only [hk, Option.some.injEq, reduceCtorEq] at hcontrol <;>
    subst hcontrol <;>
    simp [hoptions, hrequired, Props.fieldName, Props.placeholder]

theorem Widget.anchors_formMarkup (w : Widget) (fields : List Widget) :
    anchors mode [w.formMarkup fields] = [mode.html w.id] := by
  have hfields : anchors mode (fields.filterMap (·.control? [])) = [] := by
    apply Html.anchors_eq_nil
    intro node hnode
    obtain ⟨field, _, hcontrol⟩ := List.mem_filterMap.mp hnode
    simp [Widget.anchors_control mode hcontrol]
  simp [Widget.formMarkup, Html.anchors_append, hfields]

theorem Widget.anchors_markup (w : Widget) : anchors mode [w.markup mode] = [mode.html w.id] := by
  unfold Widget.markup
  cases hk : w.kind
  case form => exact w.anchors_formMarkup mode []
  case input | textarea | select =>
      obtain ⟨node, hnode⟩ := Widget.control?_isSome (w := w) (by rw [hk]; rfl) w.anchor
      have hcontrol := Widget.anchors_control mode hnode
      simpa [hnode] using hcontrol
  case video =>
      cases hcontrols : w.props.flagOr "controls" true <;> simp [hcontrols]
  case button => cases mode <;> simp [Widget.buttonMarkup, EscapeMode.allowsScript]
  all_goals
      simp [anchors_links, anchors_gallery, anchors_stats, anchors_features]

theorem Component.anchors_markup_mk (w : Widget) {children : Forest}
    (hchildren : anchors mode (Forest.markup mode children) =
      children.preorder.map fun c => mode.html c.widget.id) :
    anchors mode [Component.markup mode ⟨w, children⟩] =
      mode.html w.id :: (if w.kind.isWrapper then children.preorder else []).map
        fun c => mode.html c.widget.id := by
  rcases w.kind.cases_by_children with hwrapper | hform | hleaf
  · simp [Component.markup_wrapper mode hwrapper, hwrapper, hchildren]
  · rw [Component.markup_form mode hform, Widget.anchors_formMarkup]
    simp [hform, Kind.isWrapper]
  · have hwrapper : w.kind.isWrapper = false := by
      cases hk : w.kind <;> simp_all [Kind.isWrapper, Kind.acceptsChildren]
    rw [Component.markup_leaf mode hleaf, Widget.anchors_markup]
    simp [hwrapper]

theorem Html.anchors_onLines (nodes : List Html) :
    anchors mode (Html.onLines nodes) = anchors mode nodes := by
  unfold Html.onLines
  induction nodes with
  | nil => rfl
  | cons node rest ih =>
      cases rest with
      | nil => rfl
      | cons next rest =>
          rw [List.intersperse_cons_cons, anchors_cons, Html.newline, anchors_text, ← Html.newline,
            ih, ← anchors_cons]

/-- The ids in the markup are the ids of the components that the walk visits. -/
theorem Forest.anchors_markup (forest : Forest) :
    anchors mode (forest.markup mode) = forest.preorder.map fun c => mode.html c.widget.id := by
  induction forest using Forest.induction with
  | nil => simp [Forest.markup, markupAll, Html.onLines]
  | cons w children rest ihChildren ihRest =>
      rw [Forest.markup, Html.anchors_onLines] at ihRest ⊢
      rw [markupAll, Html.anchors_cons, Component.anchors_markup_mk mode w ihChildren, ihRest]
      simp

end Anchors

theorem Html.Token.ids_decoded (token : Token) :
    token.decoded.ids = token.ids.map Text.decodeEntities := by
  cases token with
  | text s => rfl
  | startTag name attributes =>
      simp only [decoded, ids, List.filterMap_map, List.map_filterMap]
      congr 1
      funext a
      by_cases hid : a.1 = "id"
      · cases ha : a.2 with
        | none => simp [hid, ha, show Text.decodeEntities "" = "" from rfl]
        | some value => simp [hid, ha]
      · simp [hid]
  | endTag name => rfl

end StaticSite
