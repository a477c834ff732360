import Mathlib.Data.List.Nodup
import Mathlib.Data.List.Range
import Mathlib.Data.List.Perm.Subperm
import StaticSite.Component.Assembly

/-!
# Reaching records from the roots

Every position has at most one parent, so taking positions from the roots downwards never meets
one twice. `Links.Frontier` is what the taken and the waiting positions satisfy all along; one
step keeps it, and when nothing waits, the taken positions are exactly those whose parents lead
to a root.
-/

namespace StaticSite

namespace Links

variable {parents : Links}

/-! ## Children -/

@[simp] theorem mem_childrenOf {parent : Option Nat} {i : Nat} :
    i ∈ parents.childrenOf parent ↔ parents[i]? = some parent := by
  simp [childrenOf, List.mem_filterMap, List.mem_zipIdx_iff_getElem?]

theorem childrenOf_pairwise (parents : Links) (parent : Option Nat) :
    (parents.childrenOf parent).Pairwise (· < ·) := by
  unfold childrenOf
  apply List.Pairwise.filterMap (R := fun a b => a.2 < b.2)
  · rintro ⟨link, i⟩ ⟨link', j⟩ hij k hk l hl
    simp only [Option.ite_none_right_eq_some, Option.some.injEq] at hk hl
    omega
  · rw [← List.pairwise_map (f := Prod.snd), List.zipIdx_map_snd]
    exact List.pairwise_lt_range'

theorem childrenOf_nodup (parents : Links) (parent : Option Nat) :
    (parents.childrenOf parent).Nodup :=
  (parents.childrenOf_pairwise parent).imp Nat.ne_of_lt

/-- There are only so many positions. -/
theorem length_le_of_nodup {positions : List Nat} {n : Nat} (hnodup : positions.Nodup)
    (hlt : ∀ i ∈ positions, i < n) : positions.length ≤ n := by
  have hsubset : positions ⊆ List.range n := fun i hi => List.mem_range.mpr (hlt i hi)
  simpa using (List.subperm_of_subset hnodup hsubset).length_le

/-- The parents of a position lead to a root. -/
inductive Rooted (parents : Links) : Nat → Prop
  | root {i : Nat} (hlink : parents[i]? = some none) : Rooted parents i
  | child {i p : Nat} (hlink : parents[i]? = some (some p)) (hparent : Rooted parents p) :
      Rooted parents i

theorem Rooted.lt_length {i : Nat} (h : parents.Rooted i) : i < parents.length := by
  cases h with
  | root hlink => exact (List.getElem?_eq_some_iff.mp hlink).1
  | child hlink _ => exact (List.getElem?_eq_some_iff.mp hlink).1

/-- Where every position leads to a root, those that do are all positions. -/
theorem perm_range_of_rooted {visited : List Nat} (hnodup : visited.Nodup)
    (hvisited : ∀ i, i ∈ visited ↔ parents.Rooted i)
    (hrooted : ∀ i < parents.length, parents.Rooted i) :
    visited.Perm (List.range parents.length) := by
  refine (List.perm_ext_iff_of_nodup hnodup List.nodup_range).mpr ?_
  intro i
  rw [hvisited, List.mem_range]
  exact ⟨Rooted.lt_length, hrooted i⟩

/-! ## The frontier -/

/-- Positions are taken parents first: whoever is taken or waits has a taken parent or none, and
whoever has a taken parent or none is taken or waits. -/
structure Frontier (parents : Links) (taken waiting : List Nat) : Prop where
  nodup : (waiting ++ taken).Nodup
  rooted : ∀ i ∈ waiting ++ taken, parents.Rooted i
  parent_taken : ∀ i ∈ waiting ++ taken, ∀ p, parents[i]? = some (some p) → p ∈ taken
  roots_met : ∀ i, parents[i]? = some none → i ∈ waiting ++ taken
  children_met : ∀ p ∈ taken, ∀ i, parents[i]? = some (some p) → i ∈ waiting ++ taken

theorem frontier_roots (parents : Links) : parents.Frontier [] parents.roots := by
  constructor
  · simpa [roots] using parents.childrenOf_nodup none
  · intro i hi
    exact .root (by simpa [roots] using hi)
  · intro i hi p hp
    have hroot : parents[i]? = some none := by simpa [roots] using hi
    simp [hroot] at hp
  · intro i hi
    simpa [roots] using hi
  · intro p hp
    simp at hp

/-- The order of what is taken and of what waits does not matter. -/
theorem Frontier.perm {taken taken' waiting waiting' : List Nat}
    (h : parents.Frontier taken waiting) (htaken : taken'.Perm taken)
    (hwaiting : waiting'.Perm waiting) : parents.Frontier taken' waiting' := by
  have hall : (waiting' ++ taken').Perm (waiting ++ taken) := hwaiting.append htaken
  constructor
  · exact hall.nodup_iff.mpr h.nodup
  · intro i hi
    exact h.rooted i (hall.mem_iff.mp hi)
  · intro i hi p hp
    exact htaken.mem_iff.mpr (h.parent_taken i (hall.mem_iff.mp hi) p hp)
  · intro i hi
    exact hall.mem_iff.mpr (h.roots_met i hi)
  · intro p hp i hi
    exact hall.mem_iff.mpr (h.children_met p (htaken.mem_iff.mp hp) i hi)

theorem Frontier.not_mem_taken {taken waiting : List Nat} {i : Nat}
    (h : parents.Frontier taken (i :: waiting)) : i ∉ taken := by
  intro hi
  have hdisjoint := (List.nodup_cons.mp h.nodup).1
  exact hdisjoint (List.mem_append_right waiting hi)

/-- Nobody who was met before has the position as parent, for it was not taken; so its children
are new. -/
theorem Frontier.step {taken waiting : List Nat} {position : Nat}
    (h : parents.Frontier taken (position :: waiting)) :
    parents.Frontier (position :: taken)
      (parents.childrenOf (some position) ++ waiting) := by
  have hperm : ((position :: waiting) ++ taken).Perm (waiting ++ position :: taken) := by
    exact (List.perm_middle (a := position)).symm
  have hnew : ∀ i ∈ parents.childrenOf (some position),
      i ∉ waiting ++ position :: taken := by
    intro i hi hold
    have hlink := mem_childrenOf.mp hi
    exact h.not_mem_taken (h.parent_taken i (hperm.mem_iff.mpr hold) position hlink)
  have hposition : parents.Rooted position := h.rooted position (by simp)
  constructor
  · rw [List.append_assoc]
    refine List.nodup_append.mpr
      ⟨parents.childrenOf_nodup _, hperm.nodup_iff.mp h.nodup, ?_⟩
    intro i hi j hj hij
    exact hnew i hi (hij ▸ hj)
  · intro i hi
    rw [List.append_assoc, List.mem_append] at hi
    rcases hi with hchild | hold
    · exact .child (mem_childrenOf.mp hchild) hposition
    · exact h.rooted i (hperm.mem_iff.mpr hold)
  · intro i hi p hp
    rw [List.append_assoc, List.mem_append] at hi
    rcases hi with hchild | hold
    · have hlink := mem_childrenOf.mp hchild
      rw [hp, Option.some.injEq, Option.some.injEq] at hlink
      exact hlink ▸ List.mem_cons_self
    · exact List.mem_cons_of_mem position (h.parent_taken i (hperm.mem_iff.mpr hold) p hp)
  · intro i hi
    rw [List.append_assoc, List.mem_append]
    exact Or.inr (hperm.mem_iff.mp (h.roots_met i hi))
  · intro p hp i hi
    rw [List.append_assoc, List.mem_append]
    rcases List.mem_cons.mp hp with rfl | htaken
    · exact Or.inl (mem_childrenOf.mpr hi)
    · exact Or.inr (hperm.mem_iff.mp (h.children_met p htaken i hi))

/-- When nobody waits, the taken positions are those that lead to a root. -/
theorem Frontier.mem_taken_iff {taken : List Nat} (h : parents.Frontier taken []) {i : Nat} :
    i ∈ taken ↔ parents.Rooted i := by
  constructor
  · intro hi
    exact h.rooted i (by simpa using hi)
  · intro hi
    induction hi with
    | root hlink => simpa using h.roots_met _ hlink
    | child hlink _ ih => simpa using h.children_met _ ih _ hlink

theorem Frontier.length_le {taken waiting : List Nat} (h : parents.Frontier taken waiting) :
    waiting.length + taken.length ≤ parents.length := by
  rw [← List.length_append]
  exact length_le_of_nodup h.nodup fun i hi => (h.rooted i hi).lt_length

/-! ## The loop -/

/-- The positions that the loop takes from a stack until it is empty, in order. Nothing counts the
turns here: a stack has one way to go on, and where the loop does not end there are no positions
for it. -/
inductive Pops (parents : Links) : (stack popped : List Nat) → Prop
  | done : Pops parents [] []
  | pop {i : Nat} {stack popped : List Nat}
      (hrest : Pops parents ((parents.childrenOf (some i)).reverse ++ stack) popped) :
      Pops parents (i :: stack) (i :: popped)

theorem Frontier.turn {taken stack : List Nat} {i : Nat} (h : parents.Frontier taken (i :: stack)) :
    parents.Frontier (i :: taken) ((parents.childrenOf (some i)).reverse ++ stack) :=
  h.step.perm (List.Perm.refl _)
    ((List.reverse_perm (parents.childrenOf (some i))).append_right stack)

/-- Each turn takes one position more, and there are only so many. -/
theorem Frontier.exists_pops {taken stack : List Nat} (h : parents.Frontier taken stack) :
    ∃ popped, parents.Pops stack popped := by
  have hlength := h.length_le
  induction hmissing : parents.length - taken.length generalizing taken stack with
  | zero =>
      have hempty : stack = [] := List.eq_nil_of_length_eq_zero (by omega)
      subst hempty
      exact ⟨[], .done⟩
  | succ missing ih =>
      cases stack with
      | nil => exact ⟨[], .done⟩
      | cons i stack =>
          obtain ⟨popped, hpops⟩ := ih h.turn h.turn.length_le (by simp; omega)
          exact ⟨i :: popped, .pop hpops⟩

theorem Pops.frontier {stack popped taken : List Nat} (hpops : parents.Pops stack popped)
    (h : parents.Frontier taken stack) : parents.Frontier (popped.reverse ++ taken) [] := by
  induction hpops generalizing taken with
  | done => simpa using h
  | pop _ ih => simpa using ih h.turn

/-- With a step for every position that is taken, the bound on the steps is not met. -/
theorem Pops.reach_eq {stack popped taken : List Nat} {steps : Nat}
    (hpops : parents.Pops stack popped) (hsteps : popped.length ≤ steps) :
    parents.reach steps stack taken = popped.reverse ++ taken := by
  induction hpops generalizing steps taken with
  | done => cases steps <;> rfl
  | pop _ ih =>
      cases steps with
      | zero => simp at hsteps
      | succ steps =>
          rw [Links.reach, ih (by simpa using hsteps)]
          simp

theorem frontier_start (parents : Links) : parents.Frontier [] parents.roots.reverse :=
  parents.frontier_roots.perm (List.Perm.refl _) (List.reverse_perm _)

theorem Pops.reached_eq {popped : List Nat} (hpops : parents.Pops parents.roots.reverse popped) :
    parents.reached = popped.reverse := by
  have hlength := (hpops.frontier parents.frontier_start).length_le
  rw [Links.reached, hpops.reach_eq (by simpa using hlength), List.append_nil]

/-- No position is taken twice. -/
theorem Pops.nodup {popped : List Nat} (hpops : parents.Pops parents.roots.reverse popped) :
    popped.Nodup := by
  simpa using (hpops.frontier parents.frontier_start).nodup

theorem Pops.mem_iff {popped : List Nat} (hpops : parents.Pops parents.roots.reverse popped)
    {i : Nat} : i ∈ popped ↔ parents.Rooted i := by
  have hend := (hpops.frontier parents.frontier_start).mem_taken_iff (i := i)
  simpa using hend

theorem mem_reached_iff {i : Nat} : i ∈ parents.reached ↔ parents.Rooted i := by
  obtain ⟨popped, hpops⟩ := parents.frontier_start.exists_pops
  rw [hpops.reached_eq, List.mem_reverse, hpops.mem_iff]

end Links

end StaticSite
