import StaticSite.Html.Markup
import StaticSite.Proofs.Component.Trimming

/-!
# What the markup shows

Markup shows a component with the children that its parent shows, and nothing else: trimming a
forest does not change its markup, and taking out a component that is shown makes the markup
shorter. A wrapper shows all of its children, a form only its fields, and a leaf none.
-/

namespace StaticSite

/-! ## Writing siblings -/

theorem writeAll_append (mode : EscapeMode) (a b : List Html) :
    writeAll mode (a ++ b) = writeAll mode a ++ writeAll mode b := by
  induction a with
  | nil => simp [writeAll]
  | cons node rest ih => simp [writeAll, ih, String.append_assoc]

@[simp] theorem Forest.render_nil (mode : EscapeMode) : Forest.render mode [] = "" := by
  simp [Forest.render, Forest.markup, markupAll, Html.onLines, writeAll]

theorem Forest.render_singleton (mode : EscapeMode) (c : Component) :
    Forest.render mode [c] = (c.markup mode).write mode := by
  simp [Forest.render, Forest.markup, markupAll, Html.onLines, writeAll]

theorem Forest.render_cons_cons (mode : EscapeMode) (c d : Component) (rest : Forest) :
    Forest.render mode (c :: d :: rest) =
      (c.markup mode).write mode ++ (mode.html "\n" ++ Forest.render mode (d :: rest)) := by
  simp [Forest.render, Forest.markup, markupAll, Html.onLines, writeAll, Html.newline, Html.write]

/-! ## The rules by their children -/

theorem Component.markup_wrapper (mode : EscapeMode) {w : Widget} (hkind : w.kind.isWrapper = true)
    (children : Forest) :
    Component.markup mode ⟨w, children⟩ =
      .element w.kind.wrapperTag w.anchor (Forest.markup mode children) := by
  simp [Component.markup, hkind, Forest.markup]

theorem Component.markup_form (mode : EscapeMode) {w : Widget} (hkind : w.kind = .form)
    (children : Forest) :
    Component.markup mode ⟨w, children⟩ = w.formMarkup (children.map (·.widget)) := by
  simp [Component.markup, hkind, Kind.isWrapper]

theorem Component.markup_leaf (mode : EscapeMode) {w : Widget}
    (hkind : w.kind.acceptsChildren = false) (children : Forest) :
    Component.markup mode ⟨w, children⟩ = w.markup mode := by
  have hwrapper : w.kind.isWrapper = false := by
    cases hk : w.kind <;> simp_all [Kind.isWrapper, Kind.acceptsChildren]
  have hform : w.kind ≠ .form := by
    rintro hk
    simp [hk, Kind.acceptsChildren] at hkind
  simp [Component.markup, hwrapper, hform]

theorem Kind.cases_by_children (kind : Kind) :
    kind.isWrapper = true ∨ kind = .form ∨ kind.acceptsChildren = false := by
  cases kind <;> simp [Kind.isWrapper, Kind.acceptsChildren]

theorem Component.shows_wrapper {c : Component} (hkind : c.widget.kind.isWrapper = true) :
    c.shows = fun _ => true := by
  funext child
  cases hk : c.widget.kind <;> simp_all [Component.shows, Kind.isWrapper, Kind.acceptsChildren]

theorem Component.shows_form {c : Component} (hkind : c.widget.kind = .form) :
    c.shows = fun child => child.widget.kind.isFormControl := by
  funext child
  simp [Component.shows, hkind]

theorem Component.shows_leaf {c : Component} (hkind : c.widget.kind.acceptsChildren = false) :
    c.shows = fun _ => false := by
  funext child
  unfold Component.shows
  cases hk : c.widget.kind <;> simp_all [Kind.acceptsChildren]

/-! ## Trimming -/

theorem Widget.control?_eq_none {w : Widget} (hkind : w.kind.isFormControl = false)
    (front : List Attribute) : w.control? front = none := by
  unfold Widget.control?
  cases hk : w.kind <;> simp_all [Kind.isFormControl]

theorem filterMap_control?_filter (children : Forest) :
    ((children.filter fun c => c.widget.kind.isFormControl).map (·.widget)).filterMap
        (·.control? []) =
      (children.map (·.widget)).filterMap (·.control? []) := by
  induction children with
  | nil => rfl
  | cons c rest ih =>
      by_cases hkind : c.widget.kind.isFormControl = true
      · rw [List.filter_cons, if_pos hkind]
        simp only [List.map_cons, List.filterMap_cons, ih]
      · rw [Bool.not_eq_true] at hkind
        simp [hkind, Widget.control?_eq_none hkind, ih]

theorem Component.markup_trimmed_mk (mode : EscapeMode) (w : Widget) (children : Forest)
    (hchildren : markupAll mode (children.trimmed fun _ => true) = markupAll mode children) :
    Component.markup mode ⟨w, children.trimmed (Component.shows ⟨w, children⟩)⟩ =
      Component.markup mode ⟨w, children⟩ := by
  rcases w.kind.cases_by_children with hwrapper | hform | hleaf
  · rw [Component.markup_wrapper mode hwrapper, Component.markup_wrapper mode hwrapper,
      Component.shows_wrapper hwrapper, Forest.markup, Forest.markup, hchildren]
  · rw [Component.markup_form mode hform, Component.markup_form mode hform,
      Component.shows_form hform, Forest.trimmed_map_widget]
    unfold Widget.formMarkup
    rw [filterMap_control?_filter]
  · rw [Component.markup_leaf mode hleaf, Component.markup_leaf mode hleaf]

theorem markupAll_trimmed (mode : EscapeMode) (forest : Forest) :
    markupAll mode (forest.trimmed fun _ => true) = markupAll mode forest := by
  induction forest using Forest.induction with
  | nil => simp
  | cons w children rest ihChildren ihRest =>
      rw [Forest.trimmed_cons, if_pos rfl, markupAll, markupAll, ihRest,
        Component.markup_trimmed_mk mode w children ihChildren]

/-! ## Lengths -/

/-- Elements, with or without content. -/
def Html.isTag : Html → Bool
  | .void _ _ => true
  | .element _ _ _ => true
  | _ => false

theorem startTag_length_pos (mode : EscapeMode) (tag : String) (attributes : List Attribute) :
    0 < (startTag mode tag attributes).length := by
  simp only [startTag, String.length_append]
  have hopen : "<".length = 1 := rfl
  omega

theorem Html.write_length_pos (mode : EscapeMode) {node : Html} (htag : node.isTag = true) :
    0 < (node.write mode).length := by
  cases node with
  | text s => simp [Html.isTag] at htag
  | code s => simp [Html.isTag] at htag
  | void tag attributes =>
      rw [Html.write]
      exact startTag_length_pos mode tag attributes
  | element tag attributes children =>
      have hstart := startTag_length_pos mode tag attributes
      simp only [Html.write, String.length_append]
      omega

theorem Widget.control?_isTag {w : Widget} {front : List Attribute} {node : Html}
    (hcontrol : w.control? front = some node) : node.isTag = true := by
  unfold Widget.control? at hcontrol
  cases hk : w.kind <;> simp only [hk, Option.some.injEq, reduceCtorEq] at hcontrol <;>
    subst hcontrol <;> rfl

theorem Widget.control?_isSome {w : Widget} (hkind : w.kind.isFormControl = true)
    (front : List Attribute) : ∃ node, w.control? front = some node := by
  unfold Widget.control?
  cases hk : w.kind <;> simp_all [Kind.isFormControl]

theorem Widget.markup_isTag (mode : EscapeMode) (w : Widget) : (w.markup mode).isTag = true := by
  unfold Widget.markup
  cases hk : w.kind <;>
    simp [hk, Html.isTag, Widget.buttonMarkup, Widget.control?, Widget.formMarkup]

theorem Component.markup_isTag (mode : EscapeMode) (c : Component) :
    (c.markup mode).isTag = true := by
  obtain ⟨w, children⟩ := c
  rcases w.kind.cases_by_children with hwrapper | hform | hleaf
  · rw [Component.markup_wrapper mode hwrapper]
    rfl
  · rw [Component.markup_form mode hform]
    rfl
  · rw [Component.markup_leaf mode hleaf]
    exact w.markup_isTag mode

theorem Component.write_length_pos (mode : EscapeMode) (c : Component) :
    0 < ((c.markup mode).write mode).length :=
  Html.write_length_pos mode (c.markup_isTag mode)

theorem length_writeAll_le_of_sublist (mode : EscapeMode) {a b : List Html}
    (hsub : a.Sublist b) : (writeAll mode a).length ≤ (writeAll mode b).length := by
  induction hsub with
  | slnil => simp
  | cons node _ ih =>
      rw [writeAll, String.length_append]
      omega
  | cons_cons node _ ih =>
      rw [writeAll, writeAll, String.length_append, String.length_append]
      omega

/-- Removing the first sibling also removes the line break behind it. -/
theorem Forest.length_render_tail_lt (mode : EscapeMode) (c : Component) (rest : Forest) :
    (Forest.render mode rest).length < (Forest.render mode (c :: rest)).length := by
  have hpos := c.write_length_pos mode
  cases rest with
  | nil => simpa [Forest.render_singleton] using hpos
  | cons d rest =>
      simp only [Forest.render_cons_cons, String.length_append] at hpos ⊢
      omega

theorem Forest.length_render_head_lt (mode : EscapeMode) {c d : Component} (rest : Forest)
    (h : ((c.markup mode).write mode).length < ((d.markup mode).write mode).length) :
    (Forest.render mode (c :: rest)).length < (Forest.render mode (d :: rest)).length := by
  cases rest with
  | nil => simpa [Forest.render_singleton] using h
  | cons e rest =>
      simp only [Forest.render_cons_cons, String.length_append]
      omega

theorem Forest.length_render_rest_lt (mode : EscapeMode) (c : Component) {a b : Forest}
    (h : (Forest.render mode a).length < (Forest.render mode b).length) :
    (Forest.render mode (c :: a)).length < (Forest.render mode (c :: b)).length := by
  cases b with
  | nil => simp at h
  | cons d rest =>
      cases a with
      | nil =>
          rw [Forest.render_nil, String.length_empty] at h
          simp only [Forest.render_singleton, Forest.render_cons_cons, String.length_append] at h ⊢
          omega
      | cons e others =>
          simp only [Forest.render_cons_cons _ c, String.length_append]
          omega

/-! ## Taking out a component -/

/-- A form is shorter without one of its fields. -/
theorem Widget.length_formMarkup_lt (mode : EscapeMode) (w : Widget) {keep : Widget → Bool}
    {fields : List Widget} {field : Widget} (hmem : field ∈ fields)
    (hkind : field.kind.isFormControl = true) (hdropped : keep field = false) :
    ((w.formMarkup (fields.filter keep)).write mode).length <
      ((w.formMarkup fields).write mode).length := by
  obtain ⟨before, after, rfl⟩ := List.append_of_mem hmem
  obtain ⟨node, hnode⟩ := Widget.control?_isSome hkind []
  have hpos := Html.write_length_pos mode (Widget.control?_isTag hnode)
  have hbefore := length_writeAll_le_of_sublist mode
    ((List.filter_sublist (p := keep) (l := before)).filterMap (·.control? []))
  have hafter := length_writeAll_le_of_sublist mode
    ((List.filter_sublist (p := keep) (l := after)).filterMap (·.control? []))
  have hfields : (writeAll mode
      (((before ++ field :: after).filter keep).filterMap (·.control? []))).length <
        (writeAll mode ((before ++ field :: after).filterMap (·.control? []))).length := by
    simp only [List.filter_append, List.filter_cons, hdropped, Bool.false_eq_true, if_false,
      List.filterMap_append, List.filterMap_cons, hnode, writeAll_append, writeAll,
      String.length_append]
    omega
  simp only [Widget.formMarkup, Html.write, writeAll_append, String.length_append]
  omega

theorem Forest.mem_ids_trimmed_controls {children : Forest} {id : String}
    (hid : id ∈ (children.trimmed fun c => c.widget.kind.isFormControl).ids) :
    ∃ w ∈ children.map (·.widget), w.kind.isFormControl = true ∧ w.id = id := by
  induction children with
  | nil => simp at hid
  | cons c rest ih =>
      obtain ⟨w, below⟩ := c
      rw [Forest.trimmed_cons] at hid
      by_cases hkind : w.kind.isFormControl = true
      · have hleaf : w.kind.acceptsChildren = false := by
          cases hk : w.kind <;> simp_all [Kind.isFormControl, Kind.acceptsChildren]
        have hshows : Component.shows ⟨w, below⟩ = fun _ => false := Component.shows_leaf hleaf
        rw [if_pos hkind, hshows, Forest.trimmed_none, Forest.ids_cons, Forest.ids_nil,
          List.nil_append, List.mem_cons] at hid
        rcases hid with rfl | hrest
        · exact ⟨w, by simp, hkind, rfl⟩
        · obtain ⟨v, hv, hfield⟩ := ih hrest
          exact ⟨v, by simp [hv], hfield⟩
      · rw [if_neg hkind] at hid
        obtain ⟨v, hv, hfield⟩ := ih hid
        exact ⟨v, by simp [hv], hfield⟩

theorem Component.length_markup_without_lt (mode : EscapeMode) (w : Widget) {children : Forest}
    {id : String}
    (hchildren : id ∈ (children.trimmed fun _ => true).ids →
      ((children.without [id]).render mode).length < (children.render mode).length)
    (hid : id ∈ (children.trimmed (Component.shows ⟨w, children⟩)).ids) :
    ((Component.markup mode ⟨w, children.without [id]⟩).write mode).length <
      ((Component.markup mode ⟨w, children⟩).write mode).length := by
  rcases w.kind.cases_by_children with hwrapper | hform | hleaf
  · rw [Component.shows_wrapper hwrapper] at hid
    have hlt := hchildren hid
    rw [Component.markup_wrapper mode hwrapper, Component.markup_wrapper mode hwrapper]
    simp only [Html.write, String.length_append]
    unfold Forest.render at hlt
    omega
  · rw [Component.shows_form hform] at hid
    obtain ⟨field, hmem, hkind, hfield⟩ := Forest.mem_ids_trimmed_controls hid
    rw [Component.markup_form mode hform, Component.markup_form mode hform,
      Forest.without_map_widget]
    exact Widget.length_formMarkup_lt mode w hmem hkind (by simp [hfield])
  · have hshows : Component.shows ⟨w, children⟩ = fun _ => false := Component.shows_leaf hleaf
    rw [hshows, Forest.trimmed_none, Forest.ids_nil] at hid
    simp at hid

theorem Forest.length_render_without_lt (mode : EscapeMode) {forest : Forest} {id : String}
    (hids : forest.ids.Nodup) (hid : id ∈ (forest.trimmed fun _ => true).ids) :
    ((forest.without [id]).render mode).length < (forest.render mode).length := by
  induction forest using Forest.induction with
  | nil => simp at hid
  | cons w children rest ihChildren ihRest =>
      rw [Forest.ids_cons, List.nodup_cons, List.nodup_append, List.mem_append, not_or] at hids
      obtain ⟨⟨hwChildren, hwRest⟩, hidsChildren, hidsRest, hdisjoint⟩ := hids
      rw [Forest.trimmed_cons, if_pos rfl, Forest.ids_cons, List.mem_cons, List.mem_append] at hid
      rw [Forest.without_cons]
      rcases hid with rfl | hbelow | hbeside
      -- Ids are distinct, so the rest of the forest stays as it is.
      · have hrest : Forest.without [w.id] rest = rest :=
          Forest.without_of_not_mem (by simpa using hwRest)
        rw [if_pos (by simp), hrest]
        exact Forest.length_render_tail_lt mode _ rest
      · have hmem := Forest.trimmed_ids_subset _ children hbelow
        have hother : w.id ∉ [id] := by
          rw [List.mem_singleton]
          rintro rfl
          exact hwChildren hmem
        have hrest : Forest.without [id] rest = rest :=
          Forest.without_of_not_mem (by simpa using fun h => hdisjoint id hmem id h rfl)
        rw [if_neg hother, hrest]
        exact Forest.length_render_head_lt mode rest
          (Component.length_markup_without_lt mode w (ihChildren hidsChildren) hbelow)
      · have hmem := Forest.trimmed_ids_subset _ rest hbeside
        have hother : w.id ∉ [id] := by
          rw [List.mem_singleton]
          rintro rfl
          exact hwRest hmem
        have hchildren : Forest.without [id] children = children :=
          Forest.without_of_not_mem (by simpa using fun h => hdisjoint id h id hmem rfl)
        rw [if_neg hother, hchildren]
        exact Forest.length_render_rest_lt mode _ (ihRest hidsRest hbeside)

end StaticSite
