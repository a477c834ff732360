import StaticSite.Component.Basic

/-!
# Walking a forest

`Forest.preorder` visits the components that have an anchor in the markup, parents before
children. The children of a form have none, for the form shows its fields without, and
the children of kinds that accept none are not shown at all.
-/

namespace StaticSite

/-- The children that are shown with an anchor of their own. -/
def Component.anchoredChildren (c : Component) : Forest :=
  match c.widget.kind with
  | .form => []
  | kind => if kind.acceptsChildren then c.children else []

theorem Component.countForest_anchoredChildren_le (c : Component) :
    countForest c.anchoredChildren ≤ countForest c.children := by
  unfold anchoredChildren
  split
  · simp [countForest]
  · split <;> simp [countForest]

/-- Visits the first component of the waiting list, and puts its children in front. -/
def Forest.preorder : (waiting : Forest) → List Component
  | [] => []
  | c :: rest => c :: Forest.preorder (c.anchoredChildren ++ rest)
termination_by waiting => countForest waiting
decreasing_by
  have h := c.countForest_anchoredChildren_le
  rw [countForest_append, countForest, c.count_eq]
  omega

end StaticSite
