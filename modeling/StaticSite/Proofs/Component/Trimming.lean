import StaticSite.Proofs.Component.Indexing

/-!
# Children that are not shown

`Forest.without` takes components out of a forest by their ids, each with all that is below it.
`Forest.trimmed` keeps what the parents show. Where ids are distinct, taking out the reported
children is trimming: no id of a child that is shown is among the reported ones.
-/

namespace StaticSite

mutual

/-- A component without those below it whose ids are dropped. -/
def Component.without (dropped : List String) : Component → Component
  | ⟨w, children⟩ => ⟨w, Forest.without dropped children⟩

def Forest.without (dropped : List String) : Forest → Forest
  | [] => []
  | c :: rest =>
      if dropped.contains c.widget.id then Forest.without dropped rest
      else c.without dropped :: Forest.without dropped rest

end

mutual

/-- A component with the children that it shows, and these trimmed in turn. -/
def Component.trimmed : Component → Component
  | ⟨w, children⟩ => ⟨w, Forest.trimmed (Component.shows ⟨w, children⟩) children⟩

/-- The components that are shown, trimmed. -/
def Forest.trimmed (shown : Component → Bool) : Forest → Forest
  | [] => []
  | c :: rest =>
    if shown c then c.trimmed :: Forest.trimmed shown rest else Forest.trimmed shown rest

end

/-- The ids of the children that no output shows. -/
def Index.droppedIds (index : Index) : List String :=
  index.unrendered.map (·.2.widget.id)

/-- No edge on the way from a root down to the component is reported. -/
inductive Index.Displays (index : Index) (forest : Forest) : Component → Prop
  | root {c : Component} (hroot : c ∈ forest) : Displays index forest c
  | child {p c : Component} (hparent : Displays index forest p) (hchild : c ∈ p.children)
      (hshown : (p, c) ∉ index.unrendered) : Displays index forest c

/-! ## Small equations -/

@[simp] theorem Forest.without_nil (dropped : List String) :
    Forest.without dropped [] = [] := by
  simp [Forest.without]

theorem Forest.without_cons (dropped : List String) (w : Widget) (children rest : Forest) :
    Forest.without dropped (⟨w, children⟩ :: rest) =
      if w.id ∈ dropped then Forest.without dropped rest
      else ⟨w, Forest.without dropped children⟩ :: Forest.without dropped rest := by
  simp [Forest.without, Component.without]

@[simp] theorem Forest.trimmed_nil (shown : Component → Bool) :
    Forest.trimmed shown [] = [] := by
  simp [Forest.trimmed]

theorem Forest.trimmed_cons (shown : Component → Bool) (w : Widget) (children rest : Forest) :
    Forest.trimmed shown (⟨w, children⟩ :: rest) =
      if shown ⟨w, children⟩ then
        ⟨w, Forest.trimmed (Component.shows ⟨w, children⟩) children⟩ :: Forest.trimmed shown rest
      else Forest.trimmed shown rest := by
  simp [Forest.trimmed, Component.trimmed]

@[simp] theorem Component.trimmed_widget (c : Component) : c.trimmed.widget = c.widget := by
  cases c
  simp [Component.trimmed]

theorem Component.trimmed_children (c : Component) :
    c.trimmed.children = Forest.trimmed c.shows c.children := by
  cases c
  simp [Component.trimmed]

theorem Forest.mem_trimmed {shown : Component → Bool} {forest : Forest} {c : Component}
    (hc : c ∈ forest) (hshown : shown c = true) : c.trimmed ∈ Forest.trimmed shown forest := by
  induction forest with
  | nil => simp at hc
  | cons first rest ih =>
      rw [Forest.trimmed]
      rcases List.mem_cons.mp hc with rfl | hrest
      · simp [hshown]
      · by_cases hfirst : shown first = true
        · simp [hfirst, ih hrest]
        · simp [hfirst, ih hrest]

theorem Forest.trimmed_none (forest : Forest) :
    Forest.trimmed (fun _ => false) forest = [] := by
  induction forest with
  | nil => simp
  | cons c rest ih => simpa [Forest.trimmed] using ih

/-- Trimming changes nothing but what is below the components. -/
theorem Forest.trimmed_map_widget (shown : Component → Bool) (forest : Forest) :
    (Forest.trimmed shown forest).map (·.widget) = (forest.filter shown).map (·.widget) := by
  induction forest with
  | nil => simp
  | cons c rest ih =>
      by_cases hshown : shown c = true <;> simp [Forest.trimmed, hshown, ih]

theorem Forest.without_map_widget (dropped : List String) (forest : Forest) :
    (forest.without dropped).map (·.widget) =
      (forest.map (·.widget)).filter fun w => w.id ∉ dropped := by
  induction forest with
  | nil => simp
  | cons c rest ih =>
      obtain ⟨w, children⟩ := c
      by_cases hdropped : w.id ∈ dropped
      · simp [Forest.without_cons, hdropped, ih]
      · simp [Forest.without_cons, hdropped, ih]

theorem Forest.without_of_not_mem {dropped : List String} {forest : Forest}
    (h : ∀ id ∈ dropped, id ∉ forest.ids) : forest.without dropped = forest := by
  induction forest using Forest.induction with
  | nil => simp
  | cons w children rest ihChildren ihRest =>
      simp only [Forest.ids_cons, List.mem_cons, List.mem_append, not_or] at h
      have hw : w.id ∉ dropped := fun hmem => (h _ hmem).1 rfl
      rw [Forest.without_cons, if_neg hw, ihChildren fun id hid => (h id hid).2.1,
        ihRest fun id hid => (h id hid).2.2]

theorem Forest.trimmed_ids_subset (shown : Component → Bool) (forest : Forest) :
    (forest.trimmed shown).ids ⊆ forest.ids := by
  induction forest using Forest.induction generalizing shown with
  | nil => simp
  | cons w children rest ihChildren ihRest =>
      intro id hid
      rw [Forest.trimmed_cons] at hid
      simp only [Forest.ids_cons, List.mem_cons, List.mem_append]
      split at hid
      · simp only [Forest.ids_cons, List.mem_cons, List.mem_append] at hid
        exact hid.imp_right (Or.imp (ihChildren _ ·) (ihRest _ ·))
      · exact Or.inr (Or.inr (ihRest _ hid))

theorem Component.shows_of_kind {p c p' c' : Component} (hp : p.widget.kind = p'.widget.kind)
    (hc : c.widget.kind = c'.widget.kind) : p.shows c = p'.shows c' := by
  simp [Component.shows, hp, hc]

/-! ## The reported children -/

theorem Index.mem_unrendered_iff {forest : Forest} {index : Index}
    (hindex : Index.ofForest forest = .ok index) {p c : Component} :
    (p, c) ∈ index.unrendered ↔ p ∈ forest.nodes ∧ c ∈ p.children ∧ p.shows c = false := by
  simp only [Index.unrendered_eq hindex, List.mem_flatMap, List.mem_map, List.mem_filter,
    Prod.mk.injEq, Bool.not_eq_true']
  constructor
  · rintro ⟨q, hq, d, ⟨hd, hshows⟩, rfl, rfl⟩
    exact ⟨hq, hd, hshows⟩
  · rintro ⟨hp, hc, hshows⟩
    exact ⟨p, hp, c, ⟨hc, hshows⟩, rfl, rfl⟩

/-- A child with the id of a reported one has the same parent, which does not show it. -/
theorem Index.mem_droppedIds_iff {forest : Forest} {index : Index}
    (hindex : Index.ofForest forest = .ok index) {p c : Component} (hp : p ∈ forest.nodes)
    (hc : c ∈ p.children) : c.widget.id ∈ index.droppedIds ↔ p.shows c = false := by
  have hids : forest.ids.Nodup := Index.ofForest_isOk_iff.mp ⟨index, hindex⟩
  constructor
  · intro hid
    obtain ⟨⟨q, d⟩, hreported, hid⟩ := List.mem_map.mp hid
    obtain ⟨hq, hd, hshows⟩ := (Index.mem_unrendered_iff hindex).mp hreported
    have hsame := Forest.record_unique hids (Forest.mem_records_of_child none hq hd)
      (Forest.mem_records_of_child none hp hc) hid
    rw [Record.mk.injEq, Option.some.injEq] at hsame
    obtain ⟨hwidget, hparent⟩ := hsame
    have hnodes : q = p := List.inj_on_of_nodup_map hids hq hp hparent
    rw [← hshows, hnodes]
    exact Component.shows_of_kind rfl (by rw [hwidget])
  · intro hshows
    exact List.mem_map.mpr ⟨(p, c), (Index.mem_unrendered_iff hindex).mpr ⟨hp, hc, hshows⟩, rfl⟩

/-- Roots are never reported, for they have no parent. -/
theorem Index.root_not_mem_droppedIds {forest : Forest} {index : Index}
    (hindex : Index.ofForest forest = .ok index) {c : Component} (hc : c ∈ forest) :
    c.widget.id ∉ index.droppedIds := by
  have hids : forest.ids.Nodup := Index.ofForest_isOk_iff.mp ⟨index, hindex⟩
  intro hid
  obtain ⟨⟨q, d⟩, hreported, hid⟩ := List.mem_map.mp hid
  obtain ⟨hq, hd, _⟩ := (Index.mem_unrendered_iff hindex).mp hreported
  have hsame := Forest.record_unique hids (Forest.mem_records_of_child none hq hd)
    (Forest.mem_records_of_mem none hc) hid
  simp at hsame

theorem Forest.without_eq_trimmed {dropped : List String} {shown : Component → Bool}
    {forest : Forest} (hroots : ∀ c ∈ forest, (c.widget.id ∈ dropped ↔ shown c = false))
    (hbelow : ∀ p ∈ forest.nodes, ∀ c ∈ p.children,
      (c.widget.id ∈ dropped ↔ p.shows c = false)) :
    forest.without dropped = forest.trimmed shown := by
  induction forest using Forest.induction generalizing shown with
  | nil => simp
  | cons w children rest ihChildren ihRest =>
      have hfirst := hroots ⟨w, children⟩ (by simp)
      have hchildren : Forest.without dropped children =
          Forest.trimmed (Component.shows ⟨w, children⟩) children :=
        ihChildren (hbelow ⟨w, children⟩ (by simp)) fun p hp => hbelow p (by simp [hp])
      have hrest : Forest.without dropped rest = Forest.trimmed shown rest :=
        ihRest (fun c hc => hroots c (by simp [hc])) fun p hp => hbelow p (by simp [hp])
      rw [Forest.without_cons, Forest.trimmed_cons, hchildren, hrest]
      by_cases hdropped : w.id ∈ dropped
      · simp [hdropped, hfirst.mp hdropped]
      · have hshown : shown ⟨w, children⟩ = true := by
          simpa using fun h => hdropped (hfirst.mpr h)
        simp [hdropped, hshown]

theorem Index.without_droppedIds {forest : Forest} {index : Index}
    (hindex : Index.ofForest forest = .ok index) :
    forest.without index.droppedIds = forest.trimmed fun _ => true := by
  apply Forest.without_eq_trimmed
  · intro c hc
    simpa using Index.root_not_mem_droppedIds hindex hc
  · intro p hp c hc
    exact Index.mem_droppedIds_iff hindex hp hc

/-! ## Displayed components -/

theorem Index.Displays.mem_nodes {index : Index} {forest : Forest} {c : Component}
    (h : index.Displays forest c) : c ∈ forest.nodes := by
  induction h with
  | root hroot => exact Forest.mem_nodes_of_mem hroot
  | child _ hchild _ ih => exact Forest.nodes_subset_of_mem ih (Forest.mem_nodes_of_mem hchild)

/-- Displayed components are those that trimming keeps. -/
theorem Index.Displays.trimmed_mem {index : Index} {forest : Forest}
    (hindex : Index.ofForest forest = .ok index) {c : Component}
    (h : index.Displays forest c) : c.trimmed ∈ (forest.trimmed fun _ => true).nodes := by
  induction h with
  | root hroot => exact Forest.mem_nodes_of_mem (Forest.mem_trimmed hroot rfl)
  | @child p c hparent hchild hshown ih =>
      have hshows : p.shows c = true := by
        by_contra hnot
        rw [Bool.not_eq_true] at hnot
        exact hshown ((Index.mem_unrendered_iff hindex).mpr ⟨hparent.mem_nodes, hchild, hnot⟩)
      apply Forest.nodes_subset_of_mem ih
      rw [Component.trimmed_children]
      exact Forest.mem_nodes_of_mem (Forest.mem_trimmed hchild hshows)

end StaticSite
