import StaticSite.Proofs.Component.Indexing
import StaticSite.Proofs.Component.Preorder

/-!
# The components that a walk visits

A walk keeps a stack with the next component at its end, and puts the children of what it visits
there in reverse. It comes to an end, and visits the components below wrappers only, in the order
of the tree: `Forest.standings` lists every component together with those above it.
-/

namespace StaticSite

/-- The components that a walk has still to visit, the next one last. -/
abbrev Walk := List Component

def Walk.ofForest (roots : Forest) : Walk :=
  roots.reverse

/-- The next component of a walk, and the walk behind it. -/
def Walk.next? (walk : Walk) : Option (Component × Walk) :=
  walk.getLast?.map fun c => (c, walk.dropLast ++ c.anchoredChildren.reverse)

/-- A walk visits these components, and then it is over. -/
inductive Walk.Yields : Walk → List Component → Prop
  | nil {walk : Walk} (hnext : walk.next? = none) : Yields walk []
  | cons {walk behind : Walk} {c : Component} {visited : List Component}
      (hnext : walk.next? = some (c, behind)) (hyields : Yields behind visited) :
      Yields walk (c :: visited)

/-- A component where it stands in a forest. -/
structure Standing where
  component : Component
  /-- The components above it, the nearest one first. -/
  above : List Component

mutual

def Component.standings (above : List Component) : Component → List Standing
  | ⟨w, children⟩ => ⟨⟨w, children⟩, above⟩ :: Forest.standings (⟨w, children⟩ :: above) children

/-- All components of a forest that stands below others, parents before children. -/
def Forest.standings (above : List Component) : Forest → List Standing
  | [] => []
  | c :: rest => c.standings above ++ Forest.standings above rest

end

/-- The kinds of components that show every child with an anchor. -/
def Kind.wrappers : List Kind :=
  [.container, .section, .header, .footer]

/-- All components above are containers, sections, headers or footers. -/
def Standing.isAnchored (s : Standing) : Bool :=
  s.above.all (·.widget.kind ∈ Kind.wrappers)

theorem Kind.mem_wrappers_iff {kind : Kind} : kind ∈ Kind.wrappers ↔ kind.isWrapper = true := by
  unfold Kind.wrappers
  cases kind <;> simp [Kind.isWrapper]

/-! ## Steps of a walk -/

@[simp] theorem Walk.next?_ofForest_nil : (Walk.ofForest []).next? = none := rfl

@[simp] theorem Walk.next?_ofForest_cons (c : Component) (rest : Forest) :
    (Walk.ofForest (c :: rest)).next? = some (c, Walk.ofForest (c.anchoredChildren ++ rest)) := by
  simp [Walk.next?, Walk.ofForest]

theorem Walk.yields_preorder (forest : Forest) :
    (Walk.ofForest forest).Yields forest.preorder := by
  induction forest using Forest.preorder.induct with
  | case1 =>
      rw [Forest.preorder_nil]
      exact .nil Walk.next?_ofForest_nil
  | case2 c rest ih =>
      rw [Forest.preorder]
      exact .cons (Walk.next?_ofForest_cons c rest) ih

theorem Walk.Yields.unique {walk : Walk} {visited others : List Component}
    (h : walk.Yields visited) (hothers : walk.Yields others) : visited = others := by
  induction h generalizing others with
  | nil hnext =>
      cases hothers with
      | nil => rfl
      | cons hother => simp [hnext] at hother
  | cons hnext _ ih =>
      cases hothers with
      | nil hother => simp [hnext] at hother
      | cons hother hrest =>
          rw [hnext, Option.some.injEq, Prod.mk.injEq] at hother
          obtain ⟨rfl, rfl⟩ := hother
          rw [ih hrest]

/-- A walk through a forest is over at some time, and has visited its preorder then. -/
theorem Walk.yields_iff {forest : Forest} {visited : List Component} :
    (Walk.ofForest forest).Yields visited ↔ visited = forest.preorder := by
  constructor
  · intro h
    exact h.unique (Walk.yields_preorder forest)
  · rintro rfl
    exact Walk.yields_preorder forest

/-! ## Where components stand -/

section Standings

variable (above : List Component)

@[simp] theorem Forest.standings_nil : Forest.standings above [] = [] := by
  rw [Forest.standings]

@[simp] theorem Forest.standings_cons (w : Widget) (children rest : Forest) :
    Forest.standings above (⟨w, children⟩ :: rest) =
      ⟨⟨w, children⟩, above⟩ :: (Forest.standings (⟨w, children⟩ :: above) children ++
        Forest.standings above rest) := by
  rw [Forest.standings, Component.standings, List.cons_append]

theorem Forest.standings_map_component (forest : Forest) :
    (forest.standings above).map (·.component) = forest.nodes := by
  induction forest using Forest.induction generalizing above with
  | nil => simp
  | cons w children rest ihChildren ihRest => simp [ihChildren, ihRest]

theorem Forest.standings_suffix (forest : Forest) :
    ∀ s ∈ forest.standings above, above <:+ s.above := by
  induction forest using Forest.induction generalizing above with
  | nil => simp
  | cons w children rest ihChildren ihRest =>
      simp only [Forest.standings_cons, List.forall_mem_cons, List.forall_mem_append]
      refine ⟨List.suffix_rfl, fun s hs => ?_, ihRest above⟩
      exact (List.suffix_cons _ above).trans (ihChildren _ s hs)

end Standings

/-- Nothing has an anchor below a component that is no wrapper. -/
theorem Forest.filter_standings_of_not_wrapper {above : List Component} {p : Component}
    (hp : p ∈ above) (hkind : p.widget.kind ∉ Kind.wrappers) (forest : Forest) :
    (forest.standings above).filter (·.isAnchored) = [] := by
  rw [List.filter_eq_nil_iff]
  intro s hs hanchored
  have hmem : p ∈ s.above := (forest.standings_suffix above s hs).subset hp
  exact hkind (of_decide_eq_true (List.all_eq_true.mp hanchored p hmem))

theorem Forest.filter_standings_of_wrappers {above : List Component}
    (habove : ∀ p ∈ above, p.widget.kind ∈ Kind.wrappers) (forest : Forest) :
    ((forest.standings above).filter (·.isAnchored)).map (·.component) = forest.preorder := by
  induction forest using Forest.induction generalizing above with
  | nil => simp
  | cons w children rest ihChildren ihRest =>
      have hself : Standing.isAnchored ⟨⟨w, children⟩, above⟩ = true := by
        simpa [Standing.isAnchored] using habove
      rw [Forest.standings_cons, List.filter_cons_of_pos hself, List.filter_append, List.map_cons,
        List.map_append, ihRest habove, Forest.preorder_cons]
      by_cases hkind : w.kind ∈ Kind.wrappers
      · rw [if_pos (Kind.mem_wrappers_iff.mp hkind),
          ihChildren (List.forall_mem_cons.mpr ⟨hkind, habove⟩)]
      · rw [if_neg (fun hwrapper => hkind (Kind.mem_wrappers_iff.mpr hwrapper)),
          Forest.filter_standings_of_not_wrapper List.mem_cons_self hkind, List.map_nil]

theorem Forest.preorder_eq_standings (forest : Forest) :
    forest.preorder = ((forest.standings []).filter (·.isAnchored)).map (·.component) :=
  (Forest.filter_standings_of_wrappers (by simp) forest).symm

theorem Forest.preorder_sublist_nodes (forest : Forest) : forest.preorder.Sublist forest.nodes := by
  rw [Forest.preorder_eq_standings, ← Forest.standings_map_component []]
  exact List.filter_sublist.map _

/-! ## Distinct ids -/

theorem Forest.below_of_mem_above {above : List Component} {forest : Forest} :
    ∀ s ∈ forest.standings above, ∀ p ∈ s.above,
      p ∈ above ∨ p ∈ forest.nodes ∧ s.component ∈ Forest.nodes p.children := by
  induction forest using Forest.induction generalizing above with
  | nil => simp
  | cons w children rest ihChildren ihRest =>
      simp only [Forest.standings_cons, Forest.nodes_cons, List.mem_cons, List.mem_append]
      rintro s (rfl | hs | hs) p hp
      · exact Or.inl hp
      · have hbelow : s.component ∈ Forest.nodes children := by
          rw [← Forest.standings_map_component (⟨w, children⟩ :: above)]
          exact List.mem_map_of_mem hs
        rcases ihChildren s hs p hp with hmem | ⟨hmem, hcomponent⟩
        · rcases List.mem_cons.mp hmem with rfl | habove
          · exact Or.inr ⟨Or.inl rfl, hbelow⟩
          · exact Or.inl habove
        · exact Or.inr ⟨Or.inr (Or.inl hmem), hcomponent⟩
      · rcases ihRest s hs p hp with habove | ⟨hmem, hcomponent⟩
        · exact Or.inl habove
        · exact Or.inr ⟨Or.inr (Or.inr hmem), hcomponent⟩

theorem Forest.exists_standing_below (above : List Component) {forest : Forest} {p c : Component}
    (hp : p ∈ forest.nodes) (hc : c ∈ Forest.nodes p.children) :
    ∃ s ∈ forest.standings above, s.component = c ∧ p ∈ s.above := by
  induction forest using Forest.induction generalizing above with
  | nil => simp at hp
  | cons w children rest ihChildren ihRest =>
      simp only [Forest.nodes_cons, List.mem_cons, List.mem_append] at hp
      simp only [Forest.standings_cons, List.mem_cons, List.mem_append]
      rcases hp with rfl | hbelow | hbeside
      · rw [← Forest.standings_map_component (⟨w, children⟩ :: above)] at hc
        obtain ⟨s, hs, hcomponent⟩ := List.mem_map.mp hc
        have hmem := (Forest.standings_suffix _ children s hs).subset List.mem_cons_self
        exact ⟨s, Or.inr (Or.inl hs), hcomponent, hmem⟩
      · obtain ⟨s, hs, hcomponent, hmem⟩ := ihChildren (⟨w, children⟩ :: above) hbelow
        exact ⟨s, Or.inr (Or.inl hs), hcomponent, hmem⟩
      · obtain ⟨s, hs, hcomponent, hmem⟩ := ihRest above hbeside
        exact ⟨s, Or.inr (Or.inr hs), hcomponent, hmem⟩

/-- Where ids are distinct a component stands in one place, so it tells what is above it. -/
theorem Forest.mem_preorder_iff {forest : Forest} (hids : forest.ids.Nodup) {c : Component}
    (hc : c ∈ forest.nodes) : c ∈ forest.preorder ↔
      ∀ p ∈ forest.nodes, c ∈ Forest.nodes p.children → p.widget.kind ∈ Kind.wrappers := by
  have hnodup : ((forest.standings []).map (·.component)).Nodup := by
    rw [Forest.standings_map_component]
    exact List.Nodup.of_map _ hids
  rw [Forest.preorder_eq_standings, List.mem_map]
  simp only [List.mem_filter]
  constructor
  · rintro ⟨s, ⟨hs, hanchored⟩, rfl⟩ p hp hbelow
    obtain ⟨t, ht, hsame, hmem⟩ := Forest.exists_standing_below [] hp hbelow
    obtain rfl : t = s := List.inj_on_of_nodup_map hnodup ht hs hsame
    exact of_decide_eq_true (List.all_eq_true.mp hanchored p hmem)
  · intro hwrappers
    rw [← Forest.standings_map_component []] at hc
    obtain ⟨s, hs, rfl⟩ := List.mem_map.mp hc
    refine ⟨s, ⟨hs, ?_⟩, rfl⟩
    rw [Standing.isAnchored, List.all_eq_true]
    intro p hp
    rcases Forest.below_of_mem_above s hs p hp with hnone | ⟨hmem, hbelow⟩
    · exact absurd hnone List.not_mem_nil
    · exact decide_eq_true (hwrappers p hmem hbelow)

end StaticSite
