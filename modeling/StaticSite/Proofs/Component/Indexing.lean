import Mathlib.Data.List.Nodup
import StaticSite.Proofs.Component.Nodes

/-!
# What the index of a forest holds

While components are taken into an index, the children that a component has there already,
together with those that still wait for it, are its children in the forest; `Index.Pending` is
this invariant. So an index, once complete, holds all components of its forest, each with its
own children, and the children reported as not shown are those of the forest.
-/

namespace StaticSite

def Index.ids (index : Index) : List String :=
  index.nodes.map (·.widget.id)

/-- The children that the node at a position has in the index. -/
def Index.childrenAt (index : Index) (p : Nat) : List Component :=
  (index.children[p]?.getD []).filterMap (index.nodes[·]?)

/-- The components that wait for a place below the node at a position. -/
def Waiting.childrenAt (waiting : Waiting) (p : Nat) : List Component :=
  (waiting.filter fun entry => entry.2 = some p).map (·.1)

/-- An id that stands behind distinct ids, and is one of them. -/
def FirstRepeat (ids : List String) (id : String) : Prop :=
  ∃ before after, ids = before ++ id :: after ∧ before.Nodup ∧ id ∈ before

theorem FirstRepeat.not_nodup {ids : List String} {id : String} (h : FirstRepeat ids id) :
    ¬ ids.Nodup := by
  obtain ⟨before, after, rfl, _, hmem⟩ := h
  intro hnodup
  exact (List.nodup_append.mp hnodup).2.2 id hmem id List.mem_cons_self rfl

theorem eq_of_repeat {front rest after after' : List String} {a b : String} (hmem : a ∈ front)
    (hdistinct : (front ++ rest).Nodup) (h : a :: after = rest ++ b :: after') : a = b := by
  cases rest with
  | nil => exact (List.cons.inj h).1
  | cons c rest =>
      obtain rfl : a = c := (List.cons.inj h).1
      exact absurd rfl ((List.nodup_append.mp hdistinct).2.2 a hmem a List.mem_cons_self)

theorem FirstRepeat.unique {ids : List String} {a b : String} (ha : FirstRepeat ids a)
    (hb : FirstRepeat ids b) : a = b := by
  obtain ⟨before, after, rfl, hdistinct, hmem⟩ := ha
  obtain ⟨before', after', hids, hdistinct', hmem'⟩ := hb
  rcases List.append_eq_append_iff.mp hids with ⟨rest, rfl, hrest⟩ | ⟨rest, rfl, hrest⟩
  · exact eq_of_repeat hmem hdistinct' hrest
  · exact (eq_of_repeat hmem' hdistinct hrest).symm

structure Index.Pending (index : Index) (waiting : Waiting) : Prop where
  length_children : index.children.length = index.nodes.length
  children_lt : ∀ positions ∈ index.children, ∀ i ∈ positions, i < index.nodes.length
  parent_lt : ∀ entry ∈ waiting, ∀ p, entry.2 = some p → p < index.nodes.length
  linked : ∀ p c, index.nodes[p]? = some c →
    index.childrenAt p ++ waiting.childrenAt p = c.children

theorem Index.pending_empty (roots : Forest) :
    Index.empty.Pending (Waiting.below none roots) := by
  constructor <;> simp [Index.empty, Waiting.below]

/-! ## Taking in one component -/

/-- The components of a forest that waits, in their order. -/
@[simp] theorem Waiting.below_map_fst (parent : Option Nat) (forest : Forest) :
    (Waiting.below parent forest).map (·.1) = forest := by
  simp [Waiting.below, Function.comp_def]

@[simp] theorem Index.add_nodes (index : Index) (c : Component) (parent : Option Nat) :
    (index.add c parent).nodes = index.nodes ++ [c] := by
  simp [Index.add]

/-- The positions of the children of a node that was there before. -/
theorem Index.add_children_lt {index : Index} (hlength : index.children.length = index.nodes.length)
    (c : Component) (parent : Option Nat) {p : Nat} (hp : p < index.nodes.length) :
    (index.add c parent).children[p]?.getD [] =
      index.children[p]?.getD [] ++ if parent = some p then [index.nodes.length] else [] := by
  have hlt : p < index.children.length := hlength ▸ hp
  cases parent with
  | none => simp [Index.add, List.getElem?_append, hlt]
  | some q =>
      by_cases hq : q = p
      · simp [Index.add, List.getElem?_append, hlt, hq]
      · simp [Index.add, List.getElem?_append, hlt, hq]

theorem Index.add_children_new {index : Index}
    (hlength : index.children.length = index.nodes.length) (c : Component)
    (parent : Option Nat) :
    (index.add c parent).children[index.nodes.length]?.getD [] = [] := by
  cases parent <;> simp [Index.add, hlength]

/-- Only the parent of the new component has one child more. -/
theorem Index.Pending.add_childrenAt {index : Index} {waiting : Waiting}
    (h : index.Pending waiting) (c : Component) (parent : Option Nat) {p : Nat}
    (hp : p < index.nodes.length) :
    (index.add c parent).childrenAt p =
      index.childrenAt p ++ if parent = some p then [c] else [] := by
  have hlt : p < index.children.length := h.length_children ▸ hp
  have hold : ((index.children[p]?.getD []).filterMap fun i => (index.nodes ++ [c])[i]?) =
      index.childrenAt p := by
    apply List.filterMap_congr
    intro i hi
    have hmem : index.children[p] ∈ index.children := List.getElem_mem hlt
    rw [List.getElem?_eq_getElem hlt, Option.getD_some] at hi
    exact List.getElem?_append_left (h.children_lt _ hmem i hi)
  unfold Index.childrenAt at hold ⊢
  rw [Index.add_nodes, Index.add_children_lt h.length_children c parent hp,
    List.filterMap_append, hold]
  by_cases hparent : parent = some p <;> simp [hparent]

theorem Waiting.childrenAt_cons (c : Component) (parent : Option Nat) (rest : Waiting) (p : Nat) :
    Waiting.childrenAt ((c, parent) :: rest) p =
      (if parent = some p then [c] else []) ++ rest.childrenAt p := by
  by_cases hparent : parent = some p <;> simp [Waiting.childrenAt, hparent]

theorem Waiting.childrenAt_below_append (forest : Forest) (rest : Waiting) (n p : Nat) :
    Waiting.childrenAt (Waiting.below (some n) forest ++ rest) p =
      (if n = p then forest else []) ++ rest.childrenAt p := by
  have hfst : ((fun entry : Component × Option Nat => entry.1) ∘ fun c => (c, some n)) = id := rfl
  by_cases hn : n = p
  · simp [Waiting.childrenAt, Waiting.below, List.filter_map, Function.comp_def, hn]
  · simp [Waiting.childrenAt, Waiting.below, List.filter_map, Function.comp_def, hn]

theorem Index.Pending.add_children_bound {index : Index} {waiting : Waiting}
    (h : index.Pending waiting) (c : Component) (parent : Option Nat) :
    ∀ positions ∈ (index.add c parent).children, ∀ i ∈ positions,
      i < (index.add c parent).nodes.length := by
  intro positions hpositions i hi
  rw [Index.add_nodes, List.length_append, List.length_singleton]
  obtain ⟨p, hp, rfl⟩ := List.mem_iff_getElem.mp hpositions
  have hget : (index.add c parent).children[p]?.getD [] = (index.add c parent).children[p] := by
    rw [List.getElem?_eq_getElem hp, Option.getD_some]
  rw [← hget] at hi
  by_cases hold : p < index.nodes.length
  · have hlt : p < index.children.length := h.length_children ▸ hold
    rw [Index.add_children_lt h.length_children c parent hold, List.mem_append,
      List.getElem?_eq_getElem hlt, Option.getD_some] at hi
    rcases hi with hbefore | hnew
    · have hbound := h.children_lt _ (List.getElem_mem hlt) i hbefore
      omega
    · split at hnew
      · rw [List.mem_singleton] at hnew
        omega
      · simp at hnew
  · have hlength : p < index.nodes.length + 1 := by
      cases parent <;> simpa [Index.add, h.length_children] using hp
    have hlast : p = index.nodes.length := by omega
    rw [hlast, Index.add_children_new h.length_children] at hi
    simp at hi

/-- Nobody waits yet for a place below a component that is taken in. -/
theorem Index.Pending.childrenAt_new {index : Index} {waiting : Waiting}
    (h : index.Pending waiting) : waiting.childrenAt index.nodes.length = [] := by
  unfold Waiting.childrenAt
  rw [List.map_eq_nil_iff, List.filter_eq_nil_iff]
  intro entry hentry hparent
  have hlt := h.parent_lt entry hentry _ (of_decide_eq_true hparent)
  omega

/-- The component moves from the waiting children of its parent to those in the index, and its
own children begin to wait. -/
theorem Index.Pending.add {index : Index} {c : Component} {parent : Option Nat} {rest : Waiting}
    (h : index.Pending ((c, parent) :: rest)) :
    (index.add c parent).Pending (Waiting.below (some index.nodes.length) c.children ++ rest) := by
  have hnew := h.childrenAt_new
  rw [Waiting.childrenAt_cons, List.append_eq_nil_iff] at hnew
  constructor
  · cases parent <;> simp [Index.add, h.length_children]
  · exact h.add_children_bound c parent
  · intro entry hentry p hp
    rw [Index.add_nodes, List.length_append, List.length_singleton]
    rcases List.mem_append.mp hentry with hbelow | hold
    · obtain ⟨child, _, rfl⟩ := List.mem_map.mp hbelow
      rw [Option.some.injEq] at hp
      omega
    · have hlt := h.parent_lt entry (List.mem_cons_of_mem _ hold) p hp
      omega
  · intro p d hd
    rw [Index.add_nodes] at hd
    rw [Waiting.childrenAt_below_append]
    by_cases hlast : index.nodes.length = p
    -- All children of the new component wait.
    · subst hlast
      rw [List.getElem?_concat_length, Option.some.injEq] at hd
      subst hd
      simp [Index.childrenAt, Index.add_children_new h.length_children, hnew.2]
    · have hlt : p < index.nodes.length := by
        have hbound := (List.getElem?_eq_some_iff.mp hd).1
        rw [List.length_append, List.length_singleton] at hbound
        omega
      rw [List.getElem?_append_left hlt] at hd
      have hlinked := h.linked p d hd
      rw [Waiting.childrenAt_cons] at hlinked
      rw [h.add_childrenAt c parent hlt, if_neg hlast, List.nil_append, List.append_assoc]
      exact hlinked

/-! ## The complete index -/

/-- Either all waiting components find a place, or the first id that comes again is reported. -/
theorem Index.extend_spec {index : Index} {waiting : Waiting} (hpending : index.Pending waiting)
    (hnodup : index.ids.Nodup) :
    (∃ final, index.extend waiting = .ok final ∧ final.Pending [] ∧
        final.nodes = index.nodes ++ Forest.nodes (waiting.map (·.1)) ∧ final.ids.Nodup) ∨
      ∃ id, index.extend waiting = .error (.duplicateId id) ∧
        FirstRepeat (index.ids ++ Forest.ids (waiting.map (·.1))) id := by
  induction index, waiting using Index.extend.induct with
  | case1 index => exact Or.inl ⟨index, by simp [Index.extend], hpending, by simp, hnodup⟩
  | case2 index c parent rest hrepeat =>
      refine Or.inr ⟨c.widget.id, by rw [Index.extend, if_pos hrepeat], ?_⟩
      refine ⟨index.ids, Forest.ids c.children ++ Forest.ids (rest.map (·.1)), ?_, hnodup, ?_⟩
      · simp [Forest.ids]
      · simpa [Index.hasId, Index.ids] using hrepeat
  | case3 index c parent rest hnew ih =>
      have hids : (index.add c parent).ids = index.ids ++ [c.widget.id] := by simp [Index.ids]
      have hfresh : c.widget.id ∉ index.ids := by simpa [Index.hasId, Index.ids] using hnew
      have hnodup' : (index.add c parent).ids.Nodup := by
        rw [hids]
        exact List.nodup_append.mpr ⟨hnodup, by simp, by
          intro a ha b hb hab
          rw [List.mem_singleton] at hb
          exact hfresh (hb ▸ hab ▸ ha)⟩
      have hwaiting : Forest.nodes
          ((Waiting.below (some index.nodes.length) c.children ++ rest).map (·.1)) =
            Forest.nodes c.children ++ Forest.nodes (rest.map (·.1)) := by
        rw [List.map_append, Waiting.below_map_fst, Forest.nodes_append]
      rw [Index.extend, if_neg hnew]
      rcases ih hpending.add hnodup' with ⟨final, hok, hfinal, hnodes, hdistinct⟩ | ⟨id, herr, hrep⟩
      · refine Or.inl ⟨final, hok, hfinal, ?_, hdistinct⟩
        rw [hnodes, hwaiting, Index.add_nodes]
        simp
      · refine Or.inr ⟨id, herr, ?_⟩
        rw [hids, Forest.ids, hwaiting] at hrep
        simpa [Forest.ids] using hrep

theorem Index.ofForest_cases (forest : Forest) :
    (∃ index, Index.ofForest forest = .ok index ∧ index.Pending [] ∧
        index.nodes = forest.nodes ∧ forest.ids.Nodup) ∨
      ∃ id, Index.ofForest forest = .error (.duplicateId id) ∧ FirstRepeat forest.ids id := by
  have hspec := Index.extend_spec (Index.pending_empty forest) (by simp [Index.ids, Index.empty])
  have hempty : Index.empty.nodes = [] ∧ Index.empty.ids = [] := ⟨rfl, rfl⟩
  rw [Waiting.below_map_fst, hempty.1, hempty.2, List.nil_append, List.nil_append] at hspec
  rcases hspec with ⟨index, hok, hpending, hnodes, hdistinct⟩ | hrepeat
  · rw [Index.ids, hnodes] at hdistinct
    exact Or.inl ⟨index, hok, hpending, hnodes, hdistinct⟩
  · exact Or.inr hrepeat

theorem Index.ofForest_isOk_iff {forest : Forest} :
    (∃ index, Index.ofForest forest = .ok index) ↔ forest.ids.Nodup := by
  rcases Index.ofForest_cases forest with ⟨index, hok, _, _, hdistinct⟩ | ⟨id, herr, hrepeat⟩
  · exact ⟨fun _ => hdistinct, fun _ => ⟨index, hok⟩⟩
  · simp [herr, hrepeat.not_nodup]

theorem FirstRepeat.ofForest {forest : Forest} {id : String} (h : FirstRepeat forest.ids id) :
    Index.ofForest forest = .error (.duplicateId id) := by
  rcases Index.ofForest_cases forest with ⟨_, _, _, _, hdistinct⟩ | ⟨other, herror, hother⟩
  · exact absurd hdistinct h.not_nodup
  · rw [herror, h.unique hother]

theorem Index.pending_of_ofForest {forest : Forest} {index : Index}
    (hindex : Index.ofForest forest = .ok index) :
    index.Pending [] ∧ index.nodes = forest.nodes := by
  rcases Index.ofForest_cases forest with ⟨final, hok, hpending, hnodes, _⟩ | ⟨id, herr, _⟩
  · obtain rfl : final = index := Except.ok.inj (hok.symm.trans hindex)
    exact ⟨hpending, hnodes⟩
  · rw [herr] at hindex
    cases hindex

/-- A complete index holds the components of the forest, each with its own children. -/
theorem Index.ofForest_spec {forest : Forest} {index : Index}
    (hindex : Index.ofForest forest = .ok index) :
    index.nodes = forest.nodes ∧ index.children.length = index.nodes.length ∧
      ∀ p c, index.nodes[p]? = some c → index.childrenAt p = c.children := by
  obtain ⟨hpending, hnodes⟩ := Index.pending_of_ofForest hindex
  refine ⟨hnodes, hpending.length_children, ?_⟩
  intro p c hc
  simpa [Waiting.childrenAt] using hpending.linked p c hc

/-- Each component of a complete index stands beside its children in the forest. -/
theorem Index.zip_children {forest : Forest} {index : Index}
    (hindex : Index.ofForest forest = .ok index) :
    (index.nodes.zip index.children).map
        (fun entry => (entry.1, entry.2.filterMap (index.nodes[·]?))) =
      index.nodes.map fun c => (c, c.children) := by
  obtain ⟨_, hlength, hchildren⟩ := Index.ofForest_spec hindex
  apply List.ext_getElem?
  intro p
  by_cases hp : p < index.nodes.length
  · have hc := List.getElem?_eq_getElem hp
    have hpositions := List.getElem?_eq_getElem (hlength ▸ hp : p < index.children.length)
    have hat := hchildren p _ hc
    rw [Index.childrenAt, hpositions, Option.getD_some] at hat
    simp [List.getElem?_zip_eq_some, hc, hpositions, hat]
  · have hout : index.nodes.length ≤ p := Nat.le_of_not_lt hp
    simp [hlength, hout]

/-- The children reported are those in the forest that their parents do not show. -/
theorem Index.unrendered_eq {forest : Forest} {index : Index}
    (hindex : Index.ofForest forest = .ok index) :
    index.unrendered = forest.nodes.flatMap fun parent =>
      (parent.children.filter (!parent.shows ·)).map (parent, ·) := by
  have hunrendered : index.unrendered =
      ((index.nodes.zip index.children).map
        (fun entry => (entry.1, entry.2.filterMap (index.nodes[·]?)))).flatMap fun entry =>
          entry.2.filterMap fun child =>
            if entry.1.shows child then none else some (entry.1, child) := by
    rw [List.flatMap_map]
    rfl
  rw [hunrendered, Index.zip_children hindex, List.flatMap_map, (Index.ofForest_spec hindex).1]
  apply List.flatMap_congr
  intro parent _
  induction parent.children with
  | nil => rfl
  | cons child rest ih =>
      by_cases hshows : parent.shows child = true
      · simpa [hshows] using ih
      · simpa [hshows] using ih

end StaticSite
