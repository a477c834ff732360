import StaticSite.Proofs.Component.Links
import StaticSite.Proofs.Component.Nodes

/-!
# What grows out of the records

`Grown` says which forest stands for some positions and which positions were visited for it.
`Builds` tells how it comes to be: one call for each position that is asked for, the calls for
its children one level deeper. Growing the roots keeps the frontier of
`StaticSite.Proofs.Component.Links`: a position is only asked for while it waits, so no call finds
an empty slot, and no record is lost or used twice.
-/

namespace StaticSite

/-- The forest has one tree for each position, whose children are the trees of the children of
the position. The visited positions stand in the order of the forest. -/
inductive Grown (records : List Record) (parents : Links) :
    (positions : List Nat) → Forest → (visited : List Nat) → Prop
  | nil : Grown records parents [] [] []
  | cons {i : Nat} {r : Record} {others below beside : List Nat} {children siblings : Forest}
      (hrecord : records[i]? = some r)
      (hchildren : Grown records parents (parents.childrenOf (some i)) children below)
      (hsiblings : Grown records parents others siblings beside) :
      Grown records parents (i :: others) (⟨r.widget, children⟩ :: siblings)
        (i :: (below ++ beside))

/-- The slots of the taken positions are empty, and all others hold the widgets of their
records. -/
def Slots.Without (records : List Record) (taken : List Nat) (slots : Slots) : Prop :=
  ∀ i, slots[i]? = records[i]?.map fun r => if i ∈ taken then none else some r.widget

theorem Slots.ofRecords_without (records : List Record) :
    (ofRecords records).Without records [] := by
  intro i
  simp [ofRecords]

theorem Slots.Without.congr {records : List Record} {taken taken' : List Nat} {slots : Slots}
    (h : slots.Without records taken) (htaken : taken'.Perm taken) :
    slots.Without records taken' := by
  intro i
  simp only [h i, htaken.mem_iff]

theorem Slots.Without.take {records : List Record} {taken : List Nat} {slots : Slots}
    (h : slots.Without records taken) (position : Nat) :
    Slots.Without records (position :: taken) (slots.set position none) := by
  intro i
  rw [List.getElem?_set]
  by_cases hposition : position = i
  · subst hposition
    have hlength : position < slots.length ↔ position < records.length := by
      have hsome := congrArg Option.isSome (h position)
      rw [Option.isSome_map, Bool.eq_iff_iff] at hsome
      simpa using hsome
    by_cases hlt : position < records.length
    · simp [hlength, hlt]
    · simp [hlength, hlt]
  · have hne : i ≠ position := fun heq => hposition heq.symm
    simp [hposition, hne, h i]

/-- A position that waits gives the widget of its record. -/
theorem Slots.Without.join_of_frontier {records : List Record} {parents : Links} {slots : Slots}
    {position : Nat} {taken waiting : List Nat} (h : slots.Without records taken)
    (hlength : parents.length = records.length)
    (hfrontier : parents.Frontier taken (position :: waiting)) :
    ∃ r, records[position]? = some r ∧ slots[position]?.join = some r.widget := by
  have hlt : position < records.length :=
    hlength ▸ (hfrontier.rooted position (by simp)).lt_length
  have hrecord : records[position]? = some records[position] := List.getElem?_eq_getElem hlt
  exact ⟨_, hrecord, by simp [h position, hrecord, hfrontier.not_mem_taken]⟩

/-! ## The calls -/

/-- A call for one position. The calls for the roots have depth 1. -/
structure Call where
  position : Nat
  depth : Nat
  /-- The slot still had its widget. -/
  filled : Bool

/-- The calls for some positions in the order of their beginnings, the forest that they give and
the slots that they leave. A call that finds no widget gives nothing and makes no further call. -/
inductive Builds (parents : Links) :
    (depth : Nat) → (slots : Slots) → (positions : List Nat) → (calls : List Call) → Forest →
      (rest : Slots) → Prop
  | nil {depth : Nat} {slots : Slots} : Builds parents depth slots [] [] [] slots
  | take {depth i : Nat} {others : List Nat} {slots left rest : Slots} {w : Widget}
      {below beside : List Call} {children siblings : Forest}
      (hslot : slots[i]?.join = some w)
      (hbelow : Builds parents (depth + 1) (slots.set i none) (parents.childrenOf (some i)) below
        children left)
      (hbeside : Builds parents depth left others beside siblings rest) :
      Builds parents depth slots (i :: others) (⟨i, depth, true⟩ :: (below ++ beside))
        (⟨w, children⟩ :: siblings) rest
  | skip {depth i : Nat} {others : List Nat} {slots rest : Slots} {beside : List Call}
      {siblings : Forest} (hslot : slots[i]?.join = none)
      (hbeside : Builds parents depth slots others beside siblings rest) :
      Builds parents depth slots (i :: others) (⟨i, depth, false⟩ :: beside) siblings rest

theorem exists_builds (parents : Links) (depth : Nat) (slots : Slots) (positions : List Nat) :
    ∃ calls, Builds parents depth slots positions calls (grow parents slots positions).forest
      (grow parents slots positions).rest := by
  induction slots, positions using grow.induct parents generalizing depth with
  | case1 slots =>
      rw [(grow_nil parents slots).1, (grow_nil parents slots).2]
      exact ⟨[], .nil⟩
  | case2 slots position others w hslot _ children left hleft hbelow _ _ _ _ ihBelow ihBeside =>
      obtain ⟨below, hbuildsBelow⟩ := ihBelow (depth + 1)
      obtain ⟨beside, hbuildsBeside⟩ := ihBeside depth
      rw [hbelow] at hbuildsBelow
      rw [(grow_cons hslot hbelow).1, (grow_cons hslot hbelow).2]
      exact ⟨_, .take hslot hbuildsBelow hbuildsBeside⟩
  | case3 slots position others hslot ih =>
      obtain ⟨beside, hbuildsBeside⟩ := ih depth
      rw [(grow_skip hslot).1, (grow_skip hslot).2]
      exact ⟨_, .skip hslot hbuildsBeside⟩

namespace Builds

variable {records : List Record} {parents : Links} {depth : Nat} {slots rest : Slots}
  {positions : List Nat} {calls : List Call} {forest : Forest}

/-- Above a call stands one call of every smaller depth, so there are as many calls as the
recursion is deep. -/
theorem depth_lt (h : Builds parents depth slots positions calls forest rest) :
    ∀ call ∈ calls, call.depth < depth + calls.length := by
  induction h with
  | nil => simp
  | take _ _ _ ihBelow ihBeside =>
      intro call hcall
      rw [List.length_cons, List.length_append]
      rcases List.mem_cons.mp hcall with rfl | hcall
      · dsimp only
        omega
      · rcases List.mem_append.mp hcall with hcall | hcall
        · have := ihBelow call hcall
          omega
        · have := ihBeside call hcall
          omega
  | skip _ _ ih =>
      intro call hcall
      rw [List.length_cons]
      rcases List.mem_cons.mp hcall with rfl | hcall
      · dsimp only
        omega
      · have := ih call hcall
        omega

/-- Calls for the positions in front of the frontier all find their widgets. They visit these
positions and all below them, and leave the rest of the frontier waiting. -/
theorem grown (h : Builds parents depth slots positions calls forest rest)
    (hlength : parents.length = records.length) {taken waiting : List Nat}
    (hslots : slots.Without records taken)
    (hfrontier : parents.Frontier taken (positions ++ waiting)) :
    Grown records parents positions forest (calls.map (·.position)) ∧
      (∀ call ∈ calls, call.filled = true) ∧
        rest.Without records (calls.map (·.position) ++ taken) ∧
          parents.Frontier (calls.map (·.position) ++ taken) waiting := by
  induction h generalizing taken waiting with
  | nil => exact ⟨.nil, by simp, hslots, hfrontier⟩
  | @take depth i others slots left rest w below beside children siblings hslot _ _ ihBelow
      ihBeside =>
      obtain ⟨r, hrecord, hfilled⟩ := hslots.join_of_frontier hlength hfrontier
      rw [hslot, Option.some.injEq] at hfilled
      subst hfilled
      have hnext : parents.Frontier (i :: taken)
          (parents.childrenOf (some i) ++ (others ++ waiting)) := hfrontier.step
      obtain ⟨hgrownBelow, hfilledBelow, hslotsBelow, hfrontierBelow⟩ :=
        ihBelow (hslots.take i) hnext
      obtain ⟨hgrownBeside, hfilledBeside, hslotsBeside, hfrontierBeside⟩ :=
        ihBeside hslotsBelow hfrontierBelow
      rw [List.map_cons, List.map_append]
      -- The positions below are taken before those beside.
      have hperm : (i :: (below.map (·.position) ++ beside.map (·.position)) ++ taken).Perm
          (beside.map (·.position) ++ (below.map (·.position) ++ i :: taken)) := by
        calc
          (i :: (below.map (·.position) ++ beside.map (·.position)) ++ taken).Perm
              (i :: (beside.map (·.position) ++ below.map (·.position)) ++ taken) :=
            (List.perm_append_comm.cons i).append_right taken
          _ = i :: ((beside.map (·.position) ++ below.map (·.position)) ++ taken) := rfl
          List.Perm _ ((beside.map (·.position) ++ below.map (·.position)) ++ i :: taken) :=
            List.perm_middle.symm
          _ = beside.map (·.position) ++ (below.map (·.position) ++ i :: taken) :=
            List.append_assoc _ _ _
      refine ⟨.cons hrecord hgrownBelow hgrownBeside, ?_, hslotsBeside.congr hperm,
        hfrontierBeside.perm hperm (List.Perm.refl _)⟩
      intro call hcall
      rcases List.mem_cons.mp hcall with rfl | hcall
      · rfl
      · exact (List.mem_append.mp hcall).elim (hfilledBelow call) (hfilledBeside call)
  | skip hslot _ _ =>
      obtain ⟨r, _, hfilled⟩ := hslots.join_of_frontier hlength hfrontier
      rw [hslot] at hfilled
      cases hfilled

/-- Calls for the roots visit every position that leads to a root, and each of them once. -/
theorem of_roots
    (h : Builds parents depth (Slots.ofRecords records) parents.roots calls forest rest)
    (hlength : parents.length = records.length) :
    Grown records parents parents.roots forest (calls.map (·.position)) ∧
      (∀ call ∈ calls, call.filled = true) ∧ (calls.map (·.position)).Nodup ∧
        ∀ i, i ∈ calls.map (·.position) ↔ parents.Rooted i := by
  have hstart : parents.Frontier [] (parents.roots ++ []) := by
    simpa using parents.frontier_roots
  obtain ⟨hgrown, hfilled, _, hfrontier⟩ :=
    h.grown hlength (Slots.ofRecords_without records) hstart
  rw [List.append_nil] at hfrontier
  refine ⟨hgrown, hfilled, by simpa using hfrontier.nodup, ?_⟩
  intro i
  exact hfrontier.mem_taken_iff

end Builds

/-- What grows out of the roots visits every position that leads to a root, and each of them
once. -/
theorem grow_roots {records : List Record} {parents : Links}
    (hlength : parents.length = records.length) :
    ∃ visited,
      Grown records parents parents.roots
          (grow parents (Slots.ofRecords records) parents.roots).forest visited ∧
        visited.Nodup ∧ ∀ i, i ∈ visited ↔ parents.Rooted i := by
  obtain ⟨calls, hbuilds⟩ := exists_builds parents 1 (Slots.ofRecords records) parents.roots
  obtain ⟨hgrown, _, hnodup, hvisited⟩ := hbuilds.of_roots hlength
  exact ⟨calls.map (·.position), hgrown, hnodup, hvisited⟩

end StaticSite
