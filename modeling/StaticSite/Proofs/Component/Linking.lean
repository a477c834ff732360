import Mathlib.Data.List.Nodup
import StaticSite.Proofs.Component.Links
import StaticSite.Proofs.Results

/-!
# Links of records

Where ids are distinct, the links of some records say for each of them which one its parent
field names. `LinksOf` states this position by position; through it a chain of links is a chain
of parent fields, and the children of a record are those that name it, in their order.
-/

namespace StaticSite

/-- Following the parent fields from a record ends at a root. -/
inductive LeadsToRoot (records : List Record) : Record → Prop
  | root {r : Record} (hparent : r.parent = none) : LeadsToRoot records r
  | child {r p : Record} (hparent : r.parent = some p.widget.id) (hmem : p ∈ records)
      (hp : LeadsToRoot records p) : LeadsToRoot records r

/-- Each parent that a record names is the id of some record. -/
def ParentsKnown (records : List Record) : Prop :=
  ∀ r ∈ records, ∀ id, r.parent = some id → ∃ p ∈ records, p.widget.id = id

def DistinctIds (records : List Record) : Prop :=
  (records.map (·.widget.id)).Nodup

/-- Each link is none for a root, and else the position of the record that is named. -/
structure LinksOf (records : List Record) (parents : Links) : Prop where
  length_eq : parents.length = records.length
  root_iff : ∀ (i : Nat) (r : Record), records[i]? = some r →
    (parents[i]? = some none ↔ r.parent = none)
  child_iff : ∀ (i p : Nat) (r q : Record), records[i]? = some r → records[p]? = some q →
    (parents[i]? = some (some p) ↔ r.parent = some q.widget.id)
  parent_lt : ∀ i p : Nat, parents[i]? = some (some p) → p < records.length

/-! ## Positions of ids -/

theorem duplicateId?_eq_none_iff {seen : List String} {records : List Record} :
    duplicateId? seen records = none ↔
      DistinctIds records ∧ ∀ r ∈ records, r.widget.id ∉ seen := by
  induction records generalizing seen with
  | nil => simp [duplicateId?, DistinctIds]
  | cons r rest ih =>
      by_cases hseen : r.widget.id ∈ seen
      · simp [duplicateId?, hseen]
      · rw [duplicateId?, List.contains_eq_mem, decide_eq_false hseen, if_neg Bool.false_ne_true,
          ih]
        simp only [DistinctIds, List.map_cons, List.nodup_cons, List.mem_cons, List.mem_map,
          not_or, forall_eq_or_imp, not_exists, not_and]
        constructor
        · rintro ⟨hdistinct, hfresh⟩
          exact ⟨⟨fun s hs => (hfresh s hs).1, hdistinct⟩, hseen, fun s hs => (hfresh s hs).2⟩
        · rintro ⟨⟨hfirst, hdistinct⟩, _, hfresh⟩
          exact ⟨hdistinct, fun s hs => ⟨hfirst s hs, hfresh s hs⟩⟩

theorem DistinctIds.position_unique {records : List Record} (hdistinct : DistinctIds records)
    {i j : Nat} {r s : Record} (hr : records[i]? = some r) (hs : records[j]? = some s)
    (hid : r.widget.id = s.widget.id) : i = j := by
  have hnodup : (records.map (·.widget.id)).Nodup := hdistinct
  have hi : i < (records.map (·.widget.id)).length := by
    simpa using (List.getElem?_eq_some_iff.mp hr).1
  have hsame : (records.map (·.widget.id))[i]? = (records.map (·.widget.id))[j]? := by
    simp [hr, hs, hid]
  exact (List.getElem?_inj hi hnodup).mp hsame

theorem positionOf?_eq_some {records : List Record} (hdistinct : DistinctIds records) {p : Nat}
    {q : Record} (hq : records[p]? = some q) : positionOf? records q.widget.id = some p := by
  cases hposition : positionOf? records q.widget.id with
  | none =>
      have hnone := List.findIdx?_eq_none_iff.mp hposition q (List.mem_of_getElem? hq)
      simp at hnone
  | some j =>
      obtain ⟨hj, hid, _⟩ := List.findIdx?_eq_some_iff_getElem.mp hposition
      have hsame := hdistinct.position_unique (List.getElem?_eq_getElem hj) hq
        (by simpa using hid)
      rw [hsame]

theorem positionOf?_spec {records : List Record} {id : String} {p : Nat}
    (hposition : positionOf? records id = some p) :
    ∃ q, records[p]? = some q ∧ q.widget.id = id := by
  obtain ⟨hp, hid, _⟩ := List.findIdx?_eq_some_iff_getElem.mp hposition
  exact ⟨records[p], List.getElem?_eq_getElem hp, by simpa using hid⟩

/-! ## The links -/

theorem parentOf_eq_root_iff {records : List Record} {r : Record} :
    parentOf records r = .ok none ↔ r.parent = none := by
  unfold parentOf
  cases r.parent with
  | none => simp
  | some id => cases hposition : positionOf? records id <;> simp [hposition]

theorem parentOf_eq_child_iff {records : List Record} {r : Record} {p : Nat} :
    parentOf records r = .ok (some p) ↔
      ∃ id, r.parent = some id ∧ positionOf? records id = some p := by
  unfold parentOf
  cases r.parent with
  | none => simp
  | some id => cases hposition : positionOf? records id <;> simp [hposition]

theorem parentOf_isOk_iff {records : List Record} {r : Record} :
    (∃ link, parentOf records r = .ok link) ↔
      ∀ id, r.parent = some id → ∃ p ∈ records, p.widget.id = id := by
  unfold parentOf
  cases r.parent with
  | none => simp
  | some id =>
      cases hposition : positionOf? records id with
      | none =>
          have hnone := List.findIdx?_eq_none_iff.mp hposition
          simpa [hposition] using hnone
      | some p =>
          obtain ⟨q, hq, hid⟩ := positionOf?_spec hposition
          simpa [hposition] using ⟨q, List.mem_of_getElem? hq, hid⟩

theorem links_isOk_iff {records : List Record} :
    (∃ parents, links records = .ok parents) ↔ ParentsKnown records := by
  have hall : ∀ rest : List Record, (∃ parents, rest.mapM (parentOf records) = .ok parents) ↔
      ∀ r ∈ rest, ∃ link, parentOf records r = .ok link := by
    intro rest
    simp only [mapM_eq_ok_iff]
    induction rest with
    | nil => simp
    | cons r rest ih =>
        simp only [List.forall₂_cons_left_iff, List.mem_cons, forall_eq_or_imp, ← ih]
        constructor
        · rintro ⟨_, link, others, hlink, hothers, rfl⟩
          exact ⟨⟨link, hlink⟩, others, hothers⟩
        · rintro ⟨⟨link, hlink⟩, others, hothers⟩
          exact ⟨link :: others, link, others, hlink, hothers, rfl⟩
  unfold links ParentsKnown
  rw [hall records]
  simp only [parentOf_isOk_iff]

theorem linksOf_of_links {records : List Record} {parents : Links}
    (hdistinct : DistinctIds records) (hlinks : links records = .ok parents) :
    LinksOf records parents := by
  obtain ⟨hlength, hget⟩ := List.forall₂_iff_get.mp (mapM_eq_ok_iff.mp hlinks)
  have hpoint : ∀ (i : Nat) (r : Record) (link : Option Nat), records[i]? = some r →
      (parents[i]? = some link ↔ parentOf records r = .ok link) := by
    intro i r link hr
    obtain ⟨hi, rfl⟩ := List.getElem?_eq_some_iff.mp hr
    have hi' : i < parents.length := hlength ▸ hi
    have hat : parentOf records records[i] = .ok parents[i] := by simpa using hget i hi hi'
    rw [hat, List.getElem?_eq_getElem hi', Option.some.injEq, Except.ok.injEq]
  constructor
  · exact hlength.symm
  · intro i r hr
    rw [hpoint i r none hr, parentOf_eq_root_iff]
  · intro i p r q hr hq
    rw [hpoint i r (some p) hr, parentOf_eq_child_iff]
    constructor
    · rintro ⟨id, hparent, hposition⟩
      obtain ⟨q', hq', rfl⟩ := positionOf?_spec hposition
      rw [hq, Option.some.injEq] at hq'
      rw [hparent, hq']
    · intro hparent
      exact ⟨q.widget.id, hparent, positionOf?_eq_some hdistinct hq⟩
  · intro i p hp
    have hi : i < records.length := hlength ▸ (List.getElem?_eq_some_iff.mp hp).1
    have hat := (hpoint i _ (some p) (List.getElem?_eq_getElem hi)).mp hp
    obtain ⟨id, _, hposition⟩ := parentOf_eq_child_iff.mp hat
    obtain ⟨q, hq, _⟩ := positionOf?_spec hposition
    exact (List.getElem?_eq_some_iff.mp hq).1

/-! ## Chains and children -/

namespace LinksOf

variable {records : List Record} {parents : Links}

theorem rooted_iff (hlinks : LinksOf records parents) {i : Nat} {r : Record}
    (hr : records[i]? = some r) : parents.Rooted i ↔ LeadsToRoot records r := by
  constructor
  · intro hrooted
    induction hrooted generalizing r with
    | root hlink => exact .root ((hlinks.root_iff _ r hr).mp hlink)
    | @child i p hlink _ ih =>
        obtain ⟨q, hq⟩ : ∃ q, records[p]? = some q :=
          ⟨_, List.getElem?_eq_getElem (hlinks.parent_lt i p hlink)⟩
        exact .child ((hlinks.child_iff i p r q hr hq).mp hlink) (List.mem_of_getElem? hq) (ih hq)
  · intro hleads
    induction hleads generalizing i with
    | root hparent => exact .root ((hlinks.root_iff i _ hr).mpr hparent)
    | child hparent hmem _ ih =>
        obtain ⟨p, hp⟩ := List.mem_iff_getElem?.mp hmem
        exact .child ((hlinks.child_iff i p _ _ hr hp).mpr hparent) (ih hp)

theorem filterMap_range (records : List Record) :
    (List.range records.length).filterMap (records[·]?) = records := by
  induction records using List.reverseRecOn with
  | nil => rfl
  | append_singleton rest r ih =>
      rw [List.length_append, List.length_singleton, List.range_succ, List.filterMap_append]
      have hrest : (List.range rest.length).filterMap ((rest ++ [r])[·]?) =
          (List.range rest.length).filterMap (rest[·]?) := by
        apply List.filterMap_congr
        intro i hi
        exact List.getElem?_append_left (List.mem_range.mp hi)
      rw [hrest, ih]
      simp

theorem childrenOf_eq_filter (parents : Links) (link : Option Nat) :
    parents.childrenOf link =
      (List.range parents.length).filter fun i => parents[i]? = some link := by
  have hnodup : ((List.range parents.length).filter fun i => parents[i]? = some link).Nodup :=
    List.nodup_range.filter _
  have hperm : (parents.childrenOf link).Perm
      ((List.range parents.length).filter fun i => parents[i]? = some link) := by
    refine (List.perm_ext_iff_of_nodup (parents.childrenOf_nodup link) hnodup).mpr ?_
    intro i
    simp only [Links.mem_childrenOf, List.mem_filter, List.mem_range, decide_eq_true_eq]
    constructor
    · intro hlink
      exact ⟨(List.getElem?_eq_some_iff.mp hlink).1, hlink⟩
    · exact And.right
  have hantisymm : ∀ i j, i ∈ parents.childrenOf link →
      j ∈ (List.range parents.length).filter (fun i => parents[i]? = some link) →
        i < j → j < i → i = j := by
    intro i j _ _ hij hji
    omega
  exact hperm.eq_of_pairwise hantisymm (parents.childrenOf_pairwise link)
    (List.pairwise_lt_range.filter _)

/-- Positions chosen by their link are records chosen by their parent field, in their order. -/
theorem filterMap_childrenOf (hlinks : LinksOf records parents) {link : Option Nat}
    {named : Option String}
    (hlink : ∀ (i : Nat) (r : Record), records[i]? = some r →
      (parents[i]? = some link ↔ r.parent = named)) :
    (parents.childrenOf link).filterMap (records[·]?) =
      records.filter fun r => r.parent = named := by
  calc
    (parents.childrenOf link).filterMap (records[·]?) =
        (List.range records.length).filterMap fun i =>
          if parents[i]? = some link then records[i]? else none := by
      rw [childrenOf_eq_filter, hlinks.length_eq, List.filterMap_filter]
      simp
    _ = (List.range records.length).filterMap fun i =>
          records[i]?.filter fun r => r.parent = named := by
      apply List.filterMap_congr
      intro i hi
      obtain ⟨r, hr⟩ : ∃ r, records[i]? = some r :=
        ⟨_, List.getElem?_eq_getElem (List.mem_range.mp hi)⟩
      simp only [hr, Option.filter_some, decide_eq_true_eq]
      by_cases hnamed : r.parent = named
      · rw [if_pos hnamed, if_pos ((hlink i r hr).mpr hnamed)]
      · rw [if_neg hnamed, if_neg fun h => hnamed ((hlink i r hr).mp h)]
    _ = ((List.range records.length).filterMap (records[·]?)).filter fun r =>
          r.parent = named := by
      rw [List.filter_filterMap]
    _ = records.filter fun r => r.parent = named := by rw [filterMap_range]

end LinksOf

end StaticSite
