import StaticSite.Proofs.Component.Assembling

/-!
# Flattening a forest

The flat records of a forest with distinct ids are well linked, and those that name one parent are
the children of that component in their order. Widgets and the order of siblings determine a
forest, so assembling any records that tell the same gives the forest back.
-/

namespace StaticSite

/-- The widgets of the records that name a parent. -/
def childWidgets (records : List Record) (parent : Option String) : List Widget :=
  (records.filter fun r => r.parent = parent).map (·.widget)

/-- Forests with the same roots, in which everybody has the children that the records name. -/
theorem Forest.ext_of_children {records : List Record} {a b : Forest}
    (hroots : a.map (·.widget) = b.map (·.widget))
    (ha : ∀ c ∈ a.nodes, c.children.map (·.widget) = childWidgets records (some c.widget.id))
    (hb : ∀ c ∈ b.nodes, c.children.map (·.widget) = childWidgets records (some c.widget.id)) :
    a = b := by
  induction a using Forest.induction generalizing b with
  | nil => exact (List.map_eq_nil_iff.mp hroots.symm).symm
  | cons w children rest ihChildren ihRest =>
      cases b with
      | nil => cases hroots
      | cons first others =>
          obtain ⟨w', children'⟩ := first
          simp only [List.map_cons, List.cons.injEq] at hroots
          obtain ⟨rfl, hothers⟩ := hroots
          simp only [Forest.nodes_cons, List.forall_mem_cons, List.forall_mem_append] at ha hb
          have hchildren : children = children' :=
            ihChildren (ha.1.trans hb.1.symm) ha.2.1 hb.2.1
          rw [hchildren, ihRest hothers ha.2.2 hb.2.2]

/-! ## Records below one parent -/

theorem Forest.records_map_id (parent : Option String) (forest : Forest) :
    (forest.records parent).map (·.widget.id) = forest.ids := by
  have hwidgets := congrArg (List.map Widget.id) (forest.records_map_widget parent)
  simpa [Forest.ids, Function.comp_def] using hwidgets

/-- Where nobody in the forest has the id, only the roots can be below it. -/
theorem Forest.filter_records_roots {named : Option String} {forest : Forest}
    (hnamed : ∀ id ∈ forest.ids, named ≠ some id) (parent : Option String) :
    (forest.records parent).filter (fun r => r.parent = named) =
      if parent = named then forest.map fun c => ⟨c.widget, parent⟩ else [] := by
  induction forest using Forest.induction generalizing parent with
  | nil => simp
  | cons w children rest ihChildren ihRest =>
      simp only [Forest.ids_cons, List.forall_mem_cons, List.forall_mem_append] at hnamed
      obtain ⟨hw, hchildren, hrest⟩ := hnamed
      rw [Forest.records_cons, List.filter_cons, List.filter_append, ihChildren hchildren,
        ihRest hrest, if_neg (Ne.symm hw), List.nil_append]
      by_cases hparent : parent = named <;> simp [hparent]

theorem some_ne_of_not_mem {id : String} {ids : List String} (hid : id ∉ ids) :
    ∀ other ∈ ids, some id ≠ some other := by
  rintro other hother ⟨⟩
  exact hid hother

theorem Forest.filter_records_children {forest : Forest} (hids : forest.ids.Nodup) {c : Component}
    (hc : c ∈ forest.nodes) {parent : Option String} (hparent : parent ≠ some c.widget.id) :
    (forest.records parent).filter (fun r => r.parent = some c.widget.id) =
      c.children.map fun d => ⟨d.widget, some c.widget.id⟩ := by
  induction forest using Forest.induction generalizing parent with
  | nil => simp at hc
  | cons w children rest ihChildren ihRest =>
      rw [Forest.ids_cons, List.nodup_cons, List.nodup_append] at hids
      obtain ⟨hw, hchildren, hrest, hapart⟩ := hids
      rw [Forest.records_cons, List.filter_cons, if_neg (by simpa using hparent),
        List.filter_append]
      rw [Forest.nodes_cons, List.mem_cons, List.mem_append] at hc
      rcases hc with rfl | hbelow | hbeside
      · have hown := some_ne_of_not_mem hw
        rw [List.forall_mem_append] at hown
        rw [Forest.filter_records_roots hown.1, Forest.filter_records_roots hown.2, if_pos rfl,
          if_neg hparent, List.append_nil]
      · have hid : c.widget.id ∈ children.ids := List.mem_map_of_mem hbelow
        have hother : c.widget.id ∉ rest.ids := fun hmem => hapart _ hid _ hmem rfl
        have hupper := (some_ne_of_not_mem hw _ (List.mem_append_left _ hid))
        rw [ihChildren hchildren hbelow hupper,
          Forest.filter_records_roots (some_ne_of_not_mem hother), if_neg hparent, List.append_nil]
      · have hid : c.widget.id ∈ rest.ids := List.mem_map_of_mem hbeside
        have hother : c.widget.id ∉ children.ids := fun hmem => hapart _ hmem _ hid rfl
        have hupper := (some_ne_of_not_mem hw _ (List.mem_append_right _ hid))
        rw [ihRest hrest hbeside hparent,
          Forest.filter_records_roots (some_ne_of_not_mem hother), if_neg hupper, List.nil_append]

/-! ## The records are well linked -/

theorem LeadsToRoot.mono {records others : List Record} (hsub : records ⊆ others) {r : Record}
    (h : LeadsToRoot records r) : LeadsToRoot others r := by
  induction h with
  | root hparent => exact .root hparent
  | child hparent hmem _ ih => exact .child hparent (hsub hmem) ih

theorem LeadsToRoot.parent_known {records : List Record} {r : Record} (h : LeadsToRoot records r)
    {id : String} (hparent : r.parent = some id) : ∃ p ∈ records, p.widget.id = id := by
  cases h with
  | root hroot => simp [hroot] at hparent
  | @child _ p hnamed hmem _ =>
      rw [hnamed, Option.some.injEq] at hparent
      exact ⟨p, hmem, hparent⟩

/-- What stands below a parent that leads to a root leads there too. -/
theorem Forest.leadsToRoot_records {all : List Record} {forest : Forest} {parent : Option String}
    (hall : forest.records parent ⊆ all) (hparent : ∀ w, LeadsToRoot all ⟨w, parent⟩) :
    ∀ r ∈ forest.records parent, LeadsToRoot all r := by
  induction forest using Forest.induction generalizing parent with
  | nil => simp
  | cons w children rest ihChildren ihRest =>
      rw [Forest.records_cons, List.cons_subset, List.append_subset] at hall
      obtain ⟨hw, hchildren, hrest⟩ := hall
      have hbelow : ∀ w', LeadsToRoot all ⟨w', some w.id⟩ :=
        fun _ => .child rfl hw (hparent w)
      rw [Forest.records_cons, List.forall_mem_cons, List.forall_mem_append]
      exact ⟨hparent w, ihChildren hchildren hbelow, ihRest hrest hparent⟩

theorem Forest.wellLinked_records {forest : Forest} (hids : forest.ids.Nodup) :
    WellLinked (forest.records none) := by
  have hleads : ∀ r ∈ forest.records none, LeadsToRoot (forest.records none) r :=
    Forest.leadsToRoot_records (List.Subset.refl _) fun _ => .root rfl
  refine ⟨?_, fun r hr id hparent => (hleads r hr).parent_known hparent, hleads⟩
  rw [DistinctIds, Forest.records_map_id]
  exact hids

theorem WellLinked.perm {records others : List Record} (h : WellLinked records)
    (hperm : others.Perm records) : WellLinked others := by
  have hleads : ∀ r ∈ others, LeadsToRoot others r := by
    intro r hr
    exact (h.leads r (hperm.subset hr)).mono hperm.symm.subset
  refine ⟨(hperm.map _).nodup_iff.mpr h.distinct, ?_, hleads⟩
  intro r hr id hparent
  exact (hleads r hr).parent_known hparent

/-! ## Assembling what was flattened -/

/-- The same records, and those with one parent field in the same order. -/
structure KeepsSiblings (records others : List Record) : Prop where
  perm : records.Perm others
  siblings : ∀ parent, records.filter (fun r => r.parent = parent) =
    others.filter fun r => r.parent = parent

theorem KeepsSiblings.childWidgets_eq {records others : List Record}
    (h : KeepsSiblings records others) (parent : Option String) :
    childWidgets records parent = childWidgets others parent := by
  rw [childWidgets, childWidgets, h.siblings]

theorem Assembled.forest_unique {records others : List Record} {a b : Forest}
    (ha : Assembled records a) (hb : Assembled others b) (hkeeps : KeepsSiblings records others) :
    a = b := by
  have hroots : a.map (·.widget) = b.map (·.widget) :=
    calc
      a.map (·.widget) = childWidgets records none := ha.roots_in_order
      _ = childWidgets others none := hkeeps.childWidgets_eq none
      _ = b.map (·.widget) := hb.roots_in_order.symm
  have hchildren : ∀ c ∈ b.nodes,
      c.children.map (·.widget) = childWidgets records (some c.widget.id) := by
    intro c hc
    rw [hkeeps.childWidgets_eq]
    exact hb.children_in_order c hc
  exact Forest.ext_of_children hroots ha.children_in_order hchildren

theorem Forest.roots_eq_childWidgets (forest : Forest) :
    forest.map (·.widget) = childWidgets (forest.records none) none := by
  have hnobody : ∀ id ∈ forest.ids, none ≠ some id := fun _ _ => nofun
  rw [childWidgets, Forest.filter_records_roots hnobody, if_pos rfl, List.map_map]
  rfl

theorem Forest.children_eq_childWidgets {forest : Forest} (hids : forest.ids.Nodup) :
    ∀ c ∈ forest.nodes,
      c.children.map (·.widget) = childWidgets (forest.records none) (some c.widget.id) := by
  intro c hc
  have hchildren := Forest.filter_records_children hids hc (Option.some_ne_none c.widget.id).symm
  rw [childWidgets, hchildren, List.map_map]
  rfl

theorem Forest.assembled_records {forest : Forest} (hids : forest.ids.Nodup) :
    Assembled (forest.records none) forest := by
  constructor
  · exact List.Perm.refl _
  · exact forest.roots_eq_childWidgets
  · exact Forest.children_eq_childWidgets hids
  · obtain ⟨index, hindex⟩ := Index.ofForest_isOk_iff.mpr hids
    refine ⟨index, hindex, ?_⟩
    have hlength := congrArg List.length (forest.records_map_widget none)
    rw [(Index.ofForest_spec hindex).1]
    simpa using hlength.symm

theorem assemble_flattened {forest : Forest} (hids : forest.ids.Nodup) {records : List Record}
    (hkeeps : KeepsSiblings records (forest.records none)) : assemble records = .ok forest := by
  have hwell : WellLinked records := (Forest.wellLinked_records hids).perm hkeeps.perm
  obtain ⟨assembled, hok⟩ := assemble_isOk_iff_wellLinked.mpr hwell
  rw [hok, (assembled_of_ok hok).forest_unique (Forest.assembled_records hids) hkeeps]

end StaticSite
