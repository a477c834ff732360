import StaticSite.Proofs.Component.Mapping
import StaticSite.Proofs.Site.Dropping

/-!
# Changes that no output shows

The outputs read a component by a few rules, each for one widget. Where a change of widgets leaves
all that the rules give as it was, no document changes, whatever the tree is.
-/

namespace StaticSite

/-- Page modules read of each widget only its kind and its JSX. -/
theorem jsxAll_mapWidgets_of {mode : EscapeMode} {f : Widget → Widget}
    (hkind : ∀ w, (f w).kind = w.kind) (hjsx : ∀ w, (f w).jsx mode = w.jsx mode)
    (forest : Forest) : jsxAll mode (forest.mapWidgets f) = jsxAll mode forest := by
  induction forest using Forest.induction with
  | nil => rw [Forest.mapWidgets_nil]
  | cons w children rest ihChildren ihRest =>
      rw [Forest.mapWidgets_cons, jsxAll, jsxAll, Component.jsx, Component.jsx, hkind, hjsx,
        ihChildren, ihRest]

/-- A change of widgets that no rule notices. -/
structure Unseen (mode : EscapeMode) (f : Widget → Widget) : Prop where
  kind (w : Widget) : (f w).kind = w.kind
  anchor (w : Widget) : (f w).anchor = w.anchor
  control (w : Widget) : (f w).control? [] = w.control? []
  form (w : Widget) (fields : List Widget) : (f w).formMarkup fields = w.formMarkup fields
  markup (w : Widget) : (f w).markup mode = w.markup mode
  rules (w : Widget) : (f w).rules mode = w.rules mode
  wiring (w : Widget) : (f w).wiring? mode = w.wiring? mode
  jsx (w : Widget) : (f w).jsx mode = w.jsx mode

namespace Unseen

variable {mode : EscapeMode} {f : Widget → Widget} (h : Unseen mode f)

include h

theorem formMarkup (w : Widget) (fields : List Widget) :
    (f w).formMarkup (fields.map f) = w.formMarkup fields := by
  have hfields : (fields.map f).filterMap (·.control? []) = fields.filterMap (·.control? []) := by
    simp [List.filterMap_map, h.control]
  rw [h.form, Widget.formMarkup, Widget.formMarkup, hfields]

theorem markup_mk (w : Widget) {children : Forest}
    (hchildren : markupAll mode (children.mapWidgets f) = markupAll mode children) :
    Component.markup mode ⟨f w, children.mapWidgets f⟩ = Component.markup mode ⟨w, children⟩ := by
  have hkind := h.kind w
  rcases w.kind.cases_by_children with hwrapper | hform | hleaf
  · rw [Component.markup_wrapper mode (hkind ▸ hwrapper), Component.markup_wrapper mode hwrapper,
      Forest.markup, Forest.markup, hchildren, hkind, h.anchor]
  · rw [Component.markup_form mode (hkind ▸ hform), Component.markup_form mode hform,
      Forest.mapWidgets_map_widget, h.formMarkup]
  · rw [Component.markup_leaf mode (hkind ▸ hleaf), Component.markup_leaf mode hleaf, h.markup]

theorem markupAll_mapWidgets (forest : Forest) :
    markupAll mode (forest.mapWidgets f) = markupAll mode forest := by
  induction forest using Forest.induction with
  | nil => rw [Forest.mapWidgets_nil]
  | cons w children rest ihChildren ihRest =>
      rw [Forest.mapWidgets_cons, markupAll, markupAll, h.markup_mk w ihChildren, ihRest]

theorem jsxAll_mapWidgets (forest : Forest) :
    jsxAll mode (forest.mapWidgets f) = jsxAll mode forest :=
  jsxAll_mapWidgets_of h.kind h.jsx forest

theorem preorder_mapWidgets (forest : Forest) :
    (forest.mapWidgets f).preorder.map (·.widget) = (forest.preorder.map (·.widget)).map f :=
  Forest.preorder_mapWidgets (fun w => by rw [h.kind]) forest

theorem stylesheet_mapWidgets (forest : Forest) :
    (forest.mapWidgets f).stylesheet mode = forest.stylesheet mode := by
  have hrules : ((fun w => "\n" ++ Widget.rules mode w) ∘ f) = fun w => "\n" ++ w.rules mode := by
    funext w
    rw [Function.comp_apply, h.rules]
  rw [Forest.stylesheet_eq_widgets, Forest.stylesheet_eq_widgets, h.preorder_mapWidgets,
    List.map_map, hrules]

theorem script_mapWidgets (forest : Forest) :
    (forest.mapWidgets f).script mode = forest.script mode := by
  have hwiring : Widget.wiring? mode ∘ f = Widget.wiring? mode := funext h.wiring
  unfold Forest.script
  rw [Forest.wirings_eq_widgets, Forest.wirings_eq_widgets, h.preorder_mapWidgets,
    List.filterMap_map, hwiring]

end Unseen

theorem Page.compile_mapWidgets {options : Options} {f : Widget → Widget}
    (h : Unseen options.mode f) (page : Page) (project : Project) (variant : Variant) :
    (page.withComponents (page.components.mapWidgets f)).compile options project variant =
      page.compile options project variant := by
  apply Page.compile_withComponents
  · exact congrArg Html.onLines (h.markupAll_mapWidgets page.components)
  · exact h.stylesheet_mapWidgets page.components
  · exact h.script_mapWidgets page.components
  · exact h.jsxAll_mapWidgets page.components

end StaticSite
