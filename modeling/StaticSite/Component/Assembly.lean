import StaticSite.Component.Index

/-!
# Assembling a forest

Components may come as flat records that name their parents. `assemble` links them to a
forest in which siblings keep the order of the records. It refuses ids that are not
distinct, parents that are not there, and parents that run in a circle.
-/

namespace StaticSite

/-- A component without its children, and the id of its parent; a root has none. -/
structure Record where
  widget : Widget
  parent : Option String := none

/-- The first id that an earlier record has too. -/
def duplicateId? (seen : List String) : List Record → Option String
  | [] => none
  | r :: rest =>
    if seen.contains r.widget.id then some r.widget.id else duplicateId? (r.widget.id :: seen) rest

def positionOf? (records : List Record) (id : String) : Option Nat :=
  records.findIdx? (·.widget.id = id)

/-- The position of the parent of a record; none for a root. -/
def parentOf (records : List Record) (r : Record) : Except TreeError (Option Nat) :=
  match r.parent with
  | none => .ok none
  | some parent =>
    match positionOf? records parent with
    | some position => .ok (some position)
    | none => .error (.unknownParent r.widget.id parent)

/-- For each record the position of its parent. -/
abbrev Links := List (Option Nat)

def links (records : List Record) : Except TreeError Links :=
  records.mapM (parentOf records)

/-- The positions of those who have this parent, in order. -/
def Links.childrenOf (parents : Links) (parent : Option Nat) : List Nat :=
  parents.zipIdx.filterMap fun (link, position) => if link = parent then some position else none

def Links.roots (parents : Links) : List Nat :=
  parents.childrenOf none

/-- Takes positions from a stack, and puts their children on it, the last one on top, for so
many steps. The top of the stack stands first. The result holds the positions taken, the last
one first. -/
def Links.reach (parents : Links) : (steps : Nat) → (stack taken : List Nat) → List Nat
  | 0, _, taken => taken
  | _ + 1, [], taken => taken
  | steps + 1, position :: stack, taken =>
    parents.reach steps ((parents.childrenOf (some position)).reverse ++ stack) (position :: taken)

/-- The positions that lie below a root. -/
def Links.reached (parents : Links) : List Nat :=
  parents.reach parents.length parents.roots.reverse []

/-- Follows the parents until a position comes again. -/
def Links.cycleMember (parents : Links) : (steps : Nat) → (seen : List Nat) → (position : Nat) → Nat
  | 0, _, position => position
  | steps + 1, seen, position =>
    if seen.contains position then position
    else
      match parents[position]? with
      | some (some parent) => parents.cycleMember steps (position :: seen) parent
      | _ => position

/-! ## Building -/

/-- The widgets that no component has taken yet, each at the position of its record. -/
abbrev Slots := List (Option Widget)

def Slots.ofRecords (records : List Record) : Slots :=
  records.map fun r => some r.widget

def Slots.filled (slots : Slots) : Nat :=
  slots.countP Option.isSome

theorem Slots.filled_take {slots : Slots} {position : Nat} {w : Widget}
    (hslot : slots[position]?.join = some w) :
    filled (slots.set position none) + 1 = filled slots := by
  obtain ⟨hlt, hw⟩ := List.getElem?_eq_some_iff.mp (Option.join_eq_some_iff.mp hslot)
  have hpos : 0 < slots.countP Option.isSome :=
    List.countP_pos_iff.mpr ⟨_, List.getElem_mem hlt, by simp [hw]⟩
  simp only [filled, List.countP_set hlt, hw, Option.isSome_some, Option.isSome_none, if_true]
  simp only [Bool.false_eq_true, if_false]
  omega

/-- What grows out of some slots, and the slots that are left. -/
structure Growth (slots : Slots) where
  forest : Forest
  rest : Slots
  rest_le : rest.filled ≤ slots.filled

/-- Takes the widgets at some positions, one after the other, each with all that is below it. A
slot that is empty gives nothing. -/
def grow (parents : Links) (slots : Slots) : (positions : List Nat) → Growth slots
  | [] => ⟨[], slots, Nat.le_refl _⟩
  | position :: others =>
    match hslot : slots[position]?.join with
    | some w =>
      have hfilled := Slots.filled_take hslot
      match grow parents (slots.set position none) (parents.childrenOf (some position)) with
      | ⟨children, left, hleft⟩ =>
        match grow parents left others with
        | ⟨siblings, rest, hrest⟩ => ⟨⟨w, children⟩ :: siblings, rest, by omega⟩
    | none => grow parents slots others
termination_by positions => (slots.filled, positions.length)

@[simp] theorem grow_nil (parents : Links) (slots : Slots) :
    (grow parents slots []).forest = [] ∧ (grow parents slots []).rest = slots := by
  rw [grow]
  exact ⟨rfl, rfl⟩

theorem grow_cons {parents : Links} {slots left : Slots} {position : Nat} {others : List Nat}
    {w : Widget} {children : Forest} {hleft : left.filled ≤ Slots.filled (slots.set position none)}
    (hslot : slots[position]?.join = some w)
    (hbelow : grow parents (slots.set position none) (parents.childrenOf (some position)) =
      ⟨children, left, hleft⟩) :
    (grow parents slots (position :: others)).forest =
        ⟨w, children⟩ :: (grow parents left others).forest ∧
      (grow parents slots (position :: others)).rest = (grow parents left others).rest := by
  rw [grow]
  split
  · next w' hslot' =>
    rw [hslot, Option.some.injEq] at hslot'
    subst hslot'
    rw [hbelow]
    exact ⟨rfl, rfl⟩
  · next hslot' => simp [hslot] at hslot'

theorem grow_skip {parents : Links} {slots : Slots} {position : Nat} {others : List Nat}
    (hslot : slots[position]?.join = none) :
    (grow parents slots (position :: others)).forest = (grow parents slots others).forest ∧
      (grow parents slots (position :: others)).rest = (grow parents slots others).rest := by
  rw [grow]
  split
  · next w hslot' => simp [hslot] at hslot'
  · exact ⟨rfl, rfl⟩

/-! ## Refusing or building -/

/-- The id of a record on a circle, where some record lies below no root. -/
def cycleId (records : List Record) (parents : Links) (start : Nat) : String :=
  let member := parents.cycleMember (parents.length + 1) [] start
  (records[member]?.map (·.widget.id)).getD ""

def assemble (records : List Record) : Except TreeError Forest := do
  match duplicateId? [] records with
  | some id => .error (.duplicateId id)
  | none =>
    let parents ← links records
    let reached := parents.reached
    match (List.range records.length).find? (!reached.contains ·) with
    | some start => .error (.cycle (cycleId records parents start))
    | none => .ok (grow parents (Slots.ofRecords records) parents.roots).forest

end StaticSite
