import StaticSite.Proofs.Component.Indexing

/-!
# Positions in an index

Every component of a forest is a root or a child of one component. Where ids are distinct, a
component has one position in the index, so the lists of positions name each child once and no
root at all.
-/

namespace StaticSite

/-- A parent of another kind than these shows no child, and a form shows its fields only. -/
def Component.Drops (parent child : Component) : Prop :=
  parent.widget.kind ∉ [.container, .section, .header, .footer, .form] ∨
    parent.widget.kind = .form ∧ child.widget.kind ∉ [.input, .textarea, .select]

instance (parent child : Component) : Decidable (parent.Drops child) :=
  inferInstanceAs (Decidable (_ ∨ _))

/-- What an index tells of a forest. -/
structure Index.Reflects (index : Index) (forest : Forest) : Prop where
  /-- All components stand in the index, each in front of those below it. -/
  nodes_eq : index.nodes = forest.nodes
  length_children : index.children.length = index.nodes.length
  /-- The positions of a node are those of its children, in their order. -/
  children_eq : ∀ (p : Nat) (c : Component), index.nodes[p]? = some c →
    (index.children[p]?.getD []).map (index.nodes[·]?) = c.children.map some
  /-- Only roots are nobody's children, and all others stand in one list, once. -/
  linked_once : ∀ (i : Nat) (c : Component), index.nodes[i]? = some c →
    c ∈ forest ∧ index.children.flatten.count i = 0 ∨
      c ∉ forest ∧ index.children.flatten.count i = 1
  unrendered_eq : index.unrendered = forest.nodes.flatMap fun parent =>
    (parent.children.filter fun child => parent.Drops child).map (parent, ·)

/-! ## Roots and children -/

theorem Forest.nodes_perm (forest : Forest) :
    forest.nodes.Perm (forest ++ forest.nodes.flatMap (·.children)) := by
  induction forest using Forest.induction with
  | nil => simp
  | cons w children rest ihChildren ihRest =>
      rw [Forest.nodes_cons, List.flatMap_cons, List.flatMap_append, List.cons_append]
      apply List.Perm.cons
      calc
        (Forest.nodes children ++ Forest.nodes rest).Perm
            ((children ++ (Forest.nodes children).flatMap (·.children)) ++
              (rest ++ (Forest.nodes rest).flatMap (·.children))) := ihChildren.append ihRest
        List.Perm _ (rest ++ ((children ++ (Forest.nodes children).flatMap (·.children)) ++
              (Forest.nodes rest).flatMap (·.children))) := List.perm_append_comm_assoc _ _ _
        _ = _ := by rw [List.append_assoc]

/-! ## Positions -/

namespace Index

variable {forest : Forest} {index : Index}

theorem nodup_nodes (hindex : Index.ofForest forest = .ok index) : forest.nodes.Nodup :=
  List.Nodup.of_map _ (Index.ofForest_isOk_iff.mp ⟨index, hindex⟩)

/-- Roots are nobody's children, and nobody is a child twice. -/
theorem nodup_roots_children (hindex : Index.ofForest forest = .ok index) :
    (forest ++ forest.nodes.flatMap (·.children)).Nodup :=
  forest.nodes_perm.nodup_iff.mp (nodup_nodes hindex)

theorem map_getElem?_children (hindex : Index.ofForest forest = .ok index) {p : Nat}
    {c : Component} (hc : index.nodes[p]? = some c) :
    (index.children[p]?.getD []).map (index.nodes[·]?) = c.children.map some := by
  obtain ⟨hpending, _⟩ := Index.pending_of_ofForest hindex
  have hp : p < index.children.length :=
    hpending.length_children ▸ (List.getElem?_eq_some_iff.mp hc).1
  have hlinked : (index.children[p]?.getD []).filterMap (index.nodes[·]?) = c.children :=
    (Index.ofForest_spec hindex).2.2 p c hc
  -- No position points behind the nodes, so none of them gets lost among the children.
  have hfound : ∀ n ∈ (index.children[p]?.getD []).map (index.nodes[·]?), n.isSome = true := by
    intro n hn
    obtain ⟨i, hi, rfl⟩ := List.mem_map.mp hn
    rw [List.getElem?_eq_getElem hp, Option.getD_some] at hi
    simp [hpending.children_lt _ (List.getElem_mem hp) i hi]
  rw [← hlinked, List.map_filterMap_some_eq_filter_map_isSome, List.filter_eq_self.mpr hfound]

/-- Behind each other the lists of positions name all children of the forest. -/
theorem map_flatten_children (hindex : Index.ofForest forest = .ok index) :
    index.children.flatten.map (index.nodes[·]?) =
      (forest.nodes.flatMap (·.children)).map some := by
  obtain ⟨hnodes, hlength, _⟩ := Index.ofForest_spec hindex
  have hlists : index.children.map (·.map (index.nodes[·]?)) =
      index.nodes.map (·.children.map some) := by
    apply List.ext_getElem
    · simpa using hlength
    · intro p hp hp'
      rw [List.length_map] at hp hp'
      have hat := map_getElem?_children hindex (List.getElem?_eq_getElem hp')
      rw [List.getElem?_eq_getElem hp, Option.getD_some] at hat
      simpa using hat
  rw [List.map_flatten, hlists, hnodes, List.flatMap, List.map_flatten, List.map_map]
  rfl

theorem position_unique (hindex : Index.ofForest forest = .ok index) {i j : Nat} {c : Component}
    (hi : index.nodes[i]? = some c) (hj : index.nodes[j]? = some c) : i = j := by
  have hnodup : index.nodes.Nodup := by
    rw [(Index.ofForest_spec hindex).1]
    exact nodup_nodes hindex
  exact (List.getElem?_inj (List.getElem?_eq_some_iff.mp hi).1 hnodup).mp (hi.trans hj.symm)

theorem mem_flatten_children_iff (hindex : Index.ofForest forest = .ok index) {i : Nat}
    {c : Component} (hc : index.nodes[i]? = some c) :
    i ∈ index.children.flatten ↔ c ∈ forest.nodes.flatMap (·.children) := by
  have hsame : some c ∈ index.children.flatten.map (index.nodes[·]?) ↔
      c ∈ forest.nodes.flatMap (·.children) := by
    rw [map_flatten_children hindex]
    simp
  rw [← hsame, List.mem_map]
  constructor
  · intro hi
    exact ⟨i, hi, hc⟩
  · rintro ⟨j, hj, hat⟩
    exact position_unique hindex hat hc ▸ hj

theorem nodup_flatten_children (hindex : Index.ofForest forest = .ok index) :
    index.children.flatten.Nodup := by
  apply List.Nodup.of_map (index.nodes[·]?)
  rw [map_flatten_children hindex]
  exact (List.nodup_append.mp (nodup_roots_children hindex)).2.1.map fun _ _ => Option.some.inj

theorem count_flatten_children (hindex : Index.ofForest forest = .ok index) {i : Nat}
    {c : Component} (hc : index.nodes[i]? = some c) :
    c ∈ forest ∧ index.children.flatten.count i = 0 ∨
      c ∉ forest ∧ index.children.flatten.count i = 1 := by
  have hdisjoint := (List.nodup_append.mp (nodup_roots_children hindex)).2.2
  have hchild := mem_flatten_children_iff hindex hc
  have hnode : c ∈ forest.nodes := by
    rw [← (Index.ofForest_spec hindex).1]
    exact List.mem_of_getElem? hc
  rcases List.mem_append.mp (forest.nodes_perm.mem_iff.mp hnode) with hroot | hbelow
  · refine Or.inl ⟨hroot, List.count_eq_zero.mpr fun hi => ?_⟩
    exact hdisjoint c hroot c (hchild.mp hi) rfl
  · refine Or.inr ⟨fun hroot => hdisjoint c hroot c hbelow rfl, ?_⟩
    exact List.count_eq_one_of_mem (nodup_flatten_children hindex) (hchild.mpr hbelow)

end Index

theorem Component.drops_iff {parent child : Component} :
    parent.Drops child ↔ parent.shows child = false := by
  unfold Component.Drops Component.shows
  cases parent.widget.kind <;> cases child.widget.kind <;>
    simp [Kind.acceptsChildren, Kind.isFormControl]

/-- A forest has an index exactly if its ids are distinct, and the index tells all of it.
Otherwise the first id that comes again is reported. -/
theorem Index.ofForest_exact (forest : Forest) :
    ((∃ index, Index.ofForest forest = .ok index) ↔ forest.ids.Nodup) ∧
      (¬ forest.ids.Nodup → ∃ id, Index.ofForest forest = .error (.duplicateId id) ∧
        FirstRepeat forest.ids id) ∧
      ∀ index, Index.ofForest forest = .ok index → index.Reflects forest := by
  refine ⟨Index.ofForest_isOk_iff, ?_, ?_⟩
  · intro hrepeat
    rcases Index.ofForest_cases forest with ⟨_, _, _, _, hdistinct⟩ | hfound
    · exact absurd hdistinct hrepeat
    · exact hfound
  · intro index hindex
    obtain ⟨hnodes, hlength, _⟩ := Index.ofForest_spec hindex
    refine ⟨hnodes, hlength, fun p c => Index.map_getElem?_children hindex,
      fun i c => Index.count_flatten_children hindex, ?_⟩
    simp only [Index.unrendered_eq hindex, Component.drops_iff, ← Bool.not_eq_true,
      Bool.decide_eq_true, decide_not]

/-- A form with a wrapped field, and a text with a child, below a section. -/
def mixedForest : Forest :=
  [⟨{ id := "a", kind := .section },
      [⟨{ id := "b", kind := .form },
          [⟨{ id := "c", kind := .container }, [⟨{ id := "d", kind := .input }, []⟩]⟩,
            ⟨{ id := "e", kind := .select }, []⟩]⟩,
        ⟨{ id := "f", kind := .text }, [⟨{ id := "g", kind := .image }, []⟩]⟩]⟩,
    ⟨{ id := "h", kind := .unknown "chart" }, [⟨{ id := "i", kind := .text }, []⟩]⟩]

def mixedIndex : Index :=
  ⟨mixedForest.nodes, [[1, 5], [2, 4], [3], [], [], [6], [], [8], []]⟩

theorem mixedForest_indexed :
    Index.ofForest mixedForest = .ok mixedIndex ∧ mixedIndex.Reflects mixedForest ∧
      ¬ (Forest.ids (mixedForest ++ mixedForest)).Nodup ∧
      ∃ id, Index.ofForest (mixedForest ++ mixedForest) = .error (.duplicateId id) ∧
        FirstRepeat (Forest.ids (mixedForest ++ mixedForest)) id := by
  have hindex : Index.ofForest mixedForest = .ok mixedIndex := by cbv
  have hrepeat : ¬ (Forest.ids (mixedForest ++ mixedForest)).Nodup := by decide
  exact ⟨hindex, (Index.ofForest_exact mixedForest).2.2 _ hindex, hrepeat,
    (Index.ofForest_exact (mixedForest ++ mixedForest)).2.1 hrepeat⟩

end StaticSite
