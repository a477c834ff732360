import StaticSite.Component.Basic

/-!
# The index of a forest

`Index.ofForest` lists all components of a forest, shown or not, parents before children,
together with the positions of the children of each. Ids must be distinct throughout.
`Index.unrendered` finds the children that no output shows.
-/

namespace StaticSite

/-- Why components are no tree. -/
inductive TreeError
  | duplicateId (id : String)
  | unknownParent (id parent : String)
  | cycle (id : String)

def TreeError.message : TreeError → String
  | .duplicateId id => "duplicate component id: " ++ id
  | .unknownParent id parent => "component " ++ id ++ " references unknown parent " ++ parent
  | .cycle id => "component " ++ id ++ " is part of a parent cycle"

structure Index where
  nodes : List Component
  /-- For each node the positions of its children. -/
  children : List (List Nat)

def Index.empty : Index :=
  ⟨[], []⟩

def Index.hasId (index : Index) (id : String) : Bool :=
  index.nodes.any (·.widget.id = id)

/-- Puts a component behind the others, and its position with the children of its parent. -/
def Index.add (index : Index) (c : Component) (parent : Option Nat) : Index :=
  let position := index.nodes.length
  let linked :=
    match parent with
    | some p => index.children.modify p (· ++ [position])
    | none => index.children
  ⟨index.nodes ++ [c], linked ++ [[]]⟩

/-- Components that wait for their place, each with the position of its parent. -/
abbrev Waiting := List (Component × Option Nat)

def Waiting.count (waiting : Waiting) : Nat :=
  countForest (waiting.map (·.1))

/-- The components of a forest, waiting below one parent. -/
def Waiting.below (parent : Option Nat) (forest : Forest) : Waiting :=
  forest.map fun c => (c, parent)

theorem Waiting.count_below_append (parent : Option Nat) (forest : Forest) (rest : Waiting) :
    Waiting.count (below parent forest ++ rest) = countForest forest + rest.count := by
  have h : ((fun entry : Component × Option Nat => entry.1) ∘ fun c => (c, parent)) = id := rfl
  simp [Waiting.count, below, countForest_append, h]

/-- Takes in the waiting components and all that is below them. -/
def Index.extend (index : Index) : Waiting → Except TreeError Index
  | [] => .ok index
  | (c, parent) :: rest =>
    if index.hasId c.widget.id then .error (.duplicateId c.widget.id)
    else
      (index.add c parent).extend (Waiting.below (some index.nodes.length) c.children ++ rest)
termination_by waiting => waiting.count
decreasing_by
  rw [Waiting.count_below_append]
  simp only [Waiting.count, List.map_cons, countForest, c.count_eq]
  omega

def Index.ofForest (roots : Forest) : Except TreeError Index :=
  Index.empty.extend (Waiting.below none roots)

/-- Whether the output of `parent` shows `child` at all. -/
def Component.shows (parent child : Component) : Bool :=
  match parent.widget.kind with
  | .form => child.widget.kind.isFormControl
  | kind => kind.acceptsChildren

/-- Each child that its parent does not show, with the parent in front. -/
def Index.unrendered (index : Index) : List (Component × Component) :=
  (index.nodes.zip index.children).flatMap fun (parent, positions) =>
    (positions.filterMap (index.nodes[·]?)).filterMap fun child =>
      if parent.shows child then none else some (parent, child)

end StaticSite
