import StaticSite.Proofs.Component.Growth
import StaticSite.Proofs.Component.Indexing
import StaticSite.Proofs.Component.Linking

/-!
# Assembling records

Records are accepted exactly when their ids are distinct, their parents are known and no chain
of parents runs in a circle. The forest then tells the same as the records: listed as records
again, its components are the given ones, and siblings keep the order of the records.
-/

namespace StaticSite

/-- What makes flat records a forest. -/
structure WellLinked (records : List Record) : Prop where
  distinct : DistinctIds records
  known : ParentsKnown records
  leads : ∀ r ∈ records, LeadsToRoot records r

/-- The forest tells the same as the records. Widgets carry all fields of a record but its
parent, and ids name the records. -/
structure Assembled (records : List Record) (forest : Forest) : Prop where
  /-- Each record is one node, and its parent field names the node above it. -/
  records_perm : (forest.records none).Perm records
  roots_in_order : forest.map (·.widget) =
    (records.filter fun r => r.parent = none).map (·.widget)
  children_in_order : ∀ c ∈ forest.nodes, c.children.map (·.widget) =
    (records.filter fun r => r.parent = some c.widget.id).map (·.widget)
  /-- The forest has an index, of as many components as there are records. -/
  indexed : ∃ index, Index.ofForest forest = .ok index ∧ index.nodes.length = records.length

/-! ## What growing keeps of the records -/

namespace Grown

variable {records : List Record} {parents : Links} {positions visited : List Nat}
  {forest : Forest}

theorem map_widget (h : Grown records parents positions forest visited) :
    forest.map (·.widget) = (positions.filterMap (records[·]?)).map (·.widget) := by
  induction h with
  | nil => rfl
  | cons hrecord _ _ _ ihSiblings => simp [hrecord, ihSiblings]

/-- The components of the forest are the visited records, in this order, and each stands below
the record that it names. -/
theorem records_eq (h : Grown records parents positions forest visited)
    (hlinks : LinksOf records parents) {parent : Option String}
    (hparent : ∀ i ∈ positions, ∀ r, records[i]? = some r → r.parent = parent) :
    forest.records parent = visited.filterMap (records[·]?) := by
  induction h generalizing parent with
  | nil => simp
  | @cons i r others below beside children siblings hrecord _ _ ihChildren ihSiblings =>
      have hr : (⟨r.widget, parent⟩ : Record) = r := by
        rw [← hparent i (by simp) r hrecord]
      have hchildren : ∀ j ∈ parents.childrenOf (some i), ∀ s, records[j]? = some s →
          s.parent = some r.widget.id := by
        intro j hj s hs
        exact (hlinks.child_iff j i s r hs hrecord).mp (Links.mem_childrenOf.mp hj)
      have hothers : ∀ j ∈ others, ∀ s, records[j]? = some s → s.parent = parent :=
        fun j hj => hparent j (by simp [hj])
      rw [Forest.records_cons, ihChildren hchildren, ihSiblings hothers, hr]
      simp [hrecord]

/-- Every component of the forest stands for a record, and has the trees of the children of this
record. -/
theorem children_of_mem (h : Grown records parents positions forest visited) {c : Component}
    (hc : c ∈ forest.nodes) :
    ∃ (i : Nat) (r : Record), records[i]? = some r ∧ r.widget = c.widget ∧
      c.children.map (·.widget) =
        ((parents.childrenOf (some i)).filterMap (records[·]?)).map (·.widget) := by
  induction h with
  | nil => simp at hc
  | @cons i r others below beside children siblings hrecord hgrown _ ihChildren ihSiblings =>
      simp only [Forest.nodes_cons, List.mem_cons, List.mem_append] at hc
      rcases hc with rfl | hbelow | hbeside
      · exact ⟨i, r, hrecord, rfl, hgrown.map_widget⟩
      · exact ihChildren hbelow
      · exact ihSiblings hbeside

end Grown

/-! ## Accepting -/

theorem assemble_eq_ok_iff {records : List Record} {forest : Forest} :
    assemble records = .ok forest ↔
      DistinctIds records ∧ ∃ parents, links records = .ok parents ∧
        (∀ i < records.length, parents.Rooted i) ∧
          forest = (grow parents (Slots.ofRecords records) parents.roots).forest := by
  have hdistinct : duplicateId? [] records = none ↔ DistinctIds records := by
    simp [duplicateId?_eq_none_iff]
  unfold assemble
  cases hduplicate : duplicateId? [] records with
  | some id => simp [← hdistinct, hduplicate]
  | none =>
      cases hlinks : links records with
      | error e => simp [bind, Except.bind]
      | ok parents =>
          have hreached : (List.range records.length).find? (!parents.reached.contains ·) = none ↔
              ∀ i < records.length, parents.Rooted i := by
            simp [List.find?_eq_none, Links.mem_reached_iff]
          simp only [bind, Except.bind, hdistinct.mp hduplicate, true_and, Except.ok.injEq,
            exists_eq_left', ← hreached]
          cases hfind : (List.range records.length).find? (!parents.reached.contains ·) with
          | some start => simp
          | none => simp [eq_comm]

theorem assemble_isOk_iff_wellLinked {records : List Record} :
    (∃ forest, assemble records = .ok forest) ↔ WellLinked records := by
  constructor
  · rintro ⟨forest, hok⟩
    obtain ⟨hdistinct, parents, hlinks, hrooted, _⟩ := assemble_eq_ok_iff.mp hok
    have hlinksOf := linksOf_of_links hdistinct hlinks
    refine ⟨hdistinct, links_isOk_iff.mp ⟨parents, hlinks⟩, ?_⟩
    intro r hr
    obtain ⟨i, hi⟩ := List.mem_iff_getElem?.mp hr
    exact (hlinksOf.rooted_iff hi).mp (hrooted i (List.getElem?_eq_some_iff.mp hi).1)
  · intro hwell
    obtain ⟨parents, hlinks⟩ := links_isOk_iff.mpr hwell.known
    have hlinksOf := linksOf_of_links hwell.distinct hlinks
    refine ⟨_, assemble_eq_ok_iff.mpr ⟨hwell.distinct, parents, hlinks, ?_, rfl⟩⟩
    intro i hi
    have hr := List.getElem?_eq_getElem hi
    exact (hlinksOf.rooted_iff hr).mpr (hwell.leads _ (List.getElem_mem hi))

theorem assembled_of_ok {records : List Record} {forest : Forest}
    (hok : assemble records = .ok forest) : Assembled records forest := by
  obtain ⟨hdistinct, parents, hlinks, hrooted, rfl⟩ := assemble_eq_ok_iff.mp hok
  have hlinksOf := linksOf_of_links hdistinct hlinks
  obtain ⟨visited, hgrown, hnodup, hvisited⟩ := grow_roots hlinksOf.length_eq
  set forest := (grow parents (Slots.ofRecords records) parents.roots).forest with hforest
  have hperm : visited.Perm (List.range records.length) := by
    rw [← hlinksOf.length_eq] at hrooted ⊢
    exact Links.perm_range_of_rooted hnodup hvisited hrooted
  have hroots : ∀ i ∈ parents.roots, ∀ r, records[i]? = some r → r.parent = none := by
    intro i hi r hr
    exact (hlinksOf.root_iff i r hr).mp (Links.mem_childrenOf.mp hi)
  have hrecords : (forest.records none).Perm records := by
    calc
      (forest.records none).Perm (visited.filterMap (records[·]?)) := by
        rw [hgrown.records_eq hlinksOf hroots]
      List.Perm _ ((List.range records.length).filterMap (records[·]?)) := hperm.filterMap _
      _ = records := LinksOf.filterMap_range records
  have hwidgets : (forest.nodes.map (·.widget)).Perm (records.map (·.widget)) := by
    rw [← Forest.records_map_widget none]
    exact hrecords.map _
  constructor
  · exact hrecords
  · rw [hgrown.map_widget]
    exact congrArg _ (hlinksOf.filterMap_childrenOf hlinksOf.root_iff)
  · intro c hc
    obtain ⟨i, q, hq, hwidget, hchildren⟩ := hgrown.children_of_mem hc
    rw [hchildren, ← hwidget]
    exact congrArg _ (hlinksOf.filterMap_childrenOf fun j r hr => hlinksOf.child_iff j i r q hr hq)
  · have hids : forest.ids.Perm (records.map (·.widget.id)) := by
      simpa [Forest.ids, Function.comp_def] using hwidgets.map Widget.id
    obtain ⟨index, hindex⟩ := Index.ofForest_isOk_iff.mpr (hids.nodup_iff.mpr hdistinct)
    refine ⟨index, hindex, ?_⟩
    rw [(Index.ofForest_spec hindex).1]
    simpa using hwidgets.length_eq

/-- Records become a forest exactly when they are well linked, and it tells the same as they
do. -/
theorem assemble_spec (records : List Record) :
    ((∃ forest, assemble records = .ok forest) ↔
        (records.map (·.widget.id)).Nodup ∧
          (∀ r ∈ records, ∀ id, r.parent = some id → ∃ p ∈ records, p.widget.id = id) ∧
            ∀ r ∈ records, LeadsToRoot records r) ∧
      ∀ forest, assemble records = .ok forest → Assembled records forest := by
  constructor
  · rw [assemble_isOk_iff_wellLinked]
    constructor
    · rintro ⟨hdistinct, hknown, hleads⟩
      exact ⟨hdistinct, hknown, hleads⟩
    · rintro ⟨hdistinct, hknown, hleads⟩
      exact ⟨hdistinct, hknown, hleads⟩
  · intro forest hok
    exact assembled_of_ok hok

/-- A child in front of its parent, and another one behind it. -/
def childFirst : List Record :=
  [⟨{ id := "a", kind := .text }, some "b"⟩, ⟨{ id := "b", kind := .section }, none⟩,
    ⟨{ id := "c", kind := .image }, some "b"⟩]

def childFirstForest : Forest :=
  [⟨{ id := "b", kind := .section },
    [⟨{ id := "a", kind := .text }, []⟩, ⟨{ id := "c", kind := .image }, []⟩]⟩]

theorem childFirst_assembled :
    assemble childFirst = .ok childFirstForest ∧ Assembled childFirst childFirstForest := by
  have hok : assemble childFirst = .ok childFirstForest := by cbv
  exact ⟨hok, (assemble_spec childFirst).2 _ hok⟩

end StaticSite
