import StaticSite.Proofs.Html.Documents

/-!
# Components in documents

The rules of all kinds leave an element empty if its content is no markup. So the markup of a
forest is legible as a part of a document, and a reader of the document meets the events of the
forest there.
-/

namespace StaticSite

open Html Json

namespace Html

mutual

/-- Every element whose content is no markup is empty. -/
@[simp] def HoldsMarkup : Html → Prop
  | .text _ => True
  | .code _ => True
  | .void tag _ => contentOf tag = .markup
  | .element tag _ children => (contentOf tag = .markup ∨ children = []) ∧ AllHoldMarkup children

@[simp] def AllHoldMarkup : List Html → Prop
  | [] => True
  | node :: rest => HoldsMarkup node ∧ AllHoldMarkup rest

end

theorem allHoldMarkup_iff {nodes : List Html} :
    AllHoldMarkup nodes ↔ ∀ node ∈ nodes, HoldsMarkup node := by
  induction nodes with
  | nil => simp
  | cons node rest ih => simp [ih]

theorem allHoldMarkup_map {α : Type} (items : List α) {item : α → Html}
    (h : ∀ x, HoldsMarkup (item x)) : AllHoldMarkup (items.map item) := by
  rw [allHoldMarkup_iff]
  intro node hnode
  obtain ⟨x, _, rfl⟩ := List.mem_map.mp hnode
  exact h x

theorem allHoldMarkup_onLines {nodes : List Html} (h : AllHoldMarkup nodes) :
    AllHoldMarkup (Html.onLines nodes) := by
  unfold Html.onLines
  induction nodes with
  | nil => trivial
  | cons node rest ih =>
      cases rest with
      | nil => exact h
      | cons next rest => exact ⟨h.1, trivial, ih h.2⟩

end Html

/-! ## The rules of the kinds -/

theorem links_holdMarkup (items : List Value) : AllHoldMarkup (items.map linkItem) := by
  apply allHoldMarkup_map
  intro item
  simp [linkItem, contentOf]

theorem gallery_holdsMarkup (images : List Value) : AllHoldMarkup (images.map galleryImage) := by
  apply allHoldMarkup_map
  intro image
  unfold galleryImage
  split <;> simp [contentOf]

theorem options_holdMarkup (options : List Value) : AllHoldMarkup (options.map optionItem) := by
  apply allHoldMarkup_map
  intro option
  unfold optionItem
  split <;> simp [contentOf]

theorem stats_holdMarkup (stats : List Value) : AllHoldMarkup (stats.map statItem) := by
  apply allHoldMarkup_map
  intro stat
  simp [statItem, contentOf]

theorem features_holdMarkup (features : List Value) :
    AllHoldMarkup (features.map fun feature => .element "li" [] [.text feature.text]) := by
  apply allHoldMarkup_map
  intro feature
  simp [contentOf]

theorem Widget.control?_holdsMarkup {w : Widget} {front : List Attribute} {node : Html}
    (hcontrol : w.control? front = some node) : HoldsMarkup node := by
  have hoptions := options_holdMarkup (w.props.list "options")
  unfold Widget.control? at hcontrol
  cases hk : w.kind <;> simp only [hk, Option.some.injEq, reduceCtorEq] at hcontrol
  all_goals
    subst hcontrol
    simp [hoptions, contentOf]

theorem Widget.formMarkup_holdsMarkup (w : Widget) (fields : List Widget) :
    HoldsMarkup (w.formMarkup fields) := by
  have hchildren : AllHoldMarkup (fields.filterMap (·.control? []) ++
      [.element "button" [.quoted "type" "submit"]
        [.text (w.props.text "submitText" "Submit")]]) := by
    rw [allHoldMarkup_iff]
    intro node hnode
    rcases List.mem_append.mp hnode with hfield | hbutton
    · obtain ⟨field, _, hcontrol⟩ := List.mem_filterMap.mp hfield
      exact Widget.control?_holdsMarkup hcontrol
    · obtain rfl := List.mem_singleton.mp hbutton
      simp [contentOf]
  exact ⟨Or.inl (by decide), hchildren⟩

theorem headingTag_content : ∀ level ∈ [1, 2, 3, 4, 5, 6],
    contentOf (headingTag level) = .markup := by
  decide

theorem Widget.markup_holdsMarkup (mode : EscapeMode) (w : Widget) :
    HoldsMarkup (w.markup mode) := by
  have hlinks := links_holdMarkup (w.props.list "items")
  have himages := gallery_holdsMarkup (w.props.list "images")
  have hstats := stats_holdMarkup (w.props.list "stats")
  have hfeatures := features_holdMarkup (w.props.list "features")
  unfold Widget.markup
  cases hk : w.kind
  case form => exact w.formMarkup_holdsMarkup []
  case heading =>
      have hcontent := headingTag_content _ w.props.headingLevel_mem
      exact ⟨Or.inl hcontent, trivial, trivial⟩
  case input | textarea | select =>
      obtain ⟨node, hnode⟩ := Widget.control?_isSome (w := w) (by rw [hk]; rfl) w.anchor
      have hcontrol := Widget.control?_holdsMarkup hnode
      simpa [hnode] using hcontrol
  all_goals
      simp [hlinks, himages, hstats, hfeatures, contentOf, Kind.wrapperTag,
        Widget.buttonMarkup]

theorem Component.markup_holdsMarkup_mk (mode : EscapeMode) (w : Widget) {children : Forest}
    (hchildren : AllHoldMarkup (Forest.markup mode children)) :
    HoldsMarkup (Component.markup mode ⟨w, children⟩) := by
  rcases w.kind.cases_by_children with hwrapper | hform | hleaf
  · have htag : contentOf w.kind.wrapperTag = .markup := by
      cases hk : w.kind <;> simp [hk, Kind.isWrapper] at hwrapper <;> decide
    rw [Component.markup_wrapper mode hwrapper]
    exact ⟨Or.inl htag, hchildren⟩
  · rw [Component.markup_form mode hform]
    exact w.formMarkup_holdsMarkup _
  · rw [Component.markup_leaf mode hleaf]
    exact w.markup_holdsMarkup mode

theorem markupAll_holdMarkup (mode : EscapeMode) (forest : Forest) :
    AllHoldMarkup (markupAll mode forest) := by
  induction forest using Forest.induction with
  | nil => trivial
  | cons w children rest ihChildren ihRest =>
      have hfirst := Component.markup_holdsMarkup_mk mode w (allHoldMarkup_onLines ihChildren)
      exact ⟨hfirst, ihRest⟩

/-! ## Reading the markup of a forest -/

namespace Html

variable {nodes : List Html}

theorem AllFromTemplates.legible (h : AllFromTemplates .escaped nodes)
    (hmarkup : AllHoldMarkup nodes) : LegibleAll nodes := by
  induction nodes using Html.induction with
  | nil => trivial
  | text s rest ih => exact ⟨trivial, ih h.2.2 hmarkup.2⟩
  | code s rest ih => exact absurd h.1 (by simp [FromTemplates])
  | void tag attributes rest ih =>
      obtain ⟨hname, hattributes⟩ := h.1.2.readable fun s hs => h.1.2.written_escaped hs
      exact ⟨⟨hname, hmarkup.1, hattributes⟩, ih h.2.2 hmarkup.2⟩
  | element tag attributes children rest ihChildren ihRest =>
      obtain ⟨_, htemplate, hchildren⟩ := h.1
      obtain ⟨hname, hattributes⟩ := htemplate.readable fun s hs => htemplate.written_escaped hs
      obtain ⟨hcontent, hinner⟩ := hmarkup.1
      refine ⟨⟨hname, hattributes, ?_⟩, ihRest h.2.2 hmarkup.2⟩
      by_cases hholds : contentOf tag = .markup
      · rw [if_pos hholds]
        exact ihChildren hchildren hinner
      · rw [if_neg hholds, hcontent.resolve_left hholds]
        simp [writeAll]

/-- An empty content says nothing, whatever it could be. -/
theorem AllFromTemplates.contents (h : AllFromTemplates .escaped nodes)
    (hmarkup : AllHoldMarkup nodes) : contentsAll nodes = meaning nodes := by
  induction nodes using Html.induction with
  | nil => rfl
  | text s rest ih => rw [contentsAll, Html.contents, meaning_text, ih h.2.2 hmarkup.2]
  | code s rest ih => exact absurd h.1 (by simp [FromTemplates])
  | void tag attributes rest ih =>
      rw [contentsAll, Html.contents, meaning_void, ih h.2.2 hmarkup.2]
      rfl
  | element tag attributes children rest ihChildren ihRest =>
      obtain ⟨_, _, hchildren⟩ := h.1
      obtain ⟨hcontent, hinner⟩ := hmarkup.1
      rw [contentsAll, Html.contents, meaning_element, ihRest h.2.2 hmarkup.2]
      by_cases hholds : contentOf tag = .markup
      · rw [if_pos hholds, ihChildren hchildren hinner]
      · have hempty : contentText tag "" = "" := by
          unfold contentText
          split <;> rfl
        rw [if_neg hholds, hcontent.resolve_left hholds, writeAll, hempty]
        rfl

end Html

theorem Forest.legible (forest : Forest) : LegibleAll (forest.markup .escaped) :=
  (forest.markup_fromTemplates .escaped).legible
    (allHoldMarkup_onLines (markupAll_holdMarkup .escaped forest))

theorem Forest.contents_markup (forest : Forest) :
    contentsAll (forest.markup .escaped) = forest.events := by
  rw [(forest.markup_fromTemplates .escaped).contents
    (allHoldMarkup_onLines (markupAll_holdMarkup .escaped forest)), forest.meaning_markup]

end StaticSite
