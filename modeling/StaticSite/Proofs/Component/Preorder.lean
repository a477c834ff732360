import StaticSite.Component.Walk
import StaticSite.Proofs.Component.Nodes

/-!
# The walk as a recursion

The walk puts the children that have anchors in front of a waiting list. So it is the recursion
over the tree that enters the wrappers, and it takes siblings one after the other.
-/

namespace StaticSite

theorem Component.anchoredChildren_eq (c : Component) :
    c.anchoredChildren = if c.widget.kind.isWrapper then c.children else [] := by
  unfold Component.anchoredChildren
  cases c.widget.kind <;> simp [Kind.acceptsChildren, Kind.isWrapper]

@[simp] theorem Forest.preorder_nil : Forest.preorder [] = [] := by
  rw [Forest.preorder]

theorem Forest.preorder_append (a b : Forest) :
    Forest.preorder (a ++ b) = Forest.preorder a ++ Forest.preorder b := by
  induction a using Forest.preorder.induct with
  | case1 => simp
  | case2 c rest ih =>
      rw [List.cons_append, Forest.preorder, Forest.preorder, ← List.append_assoc, ih,
        List.cons_append]

@[simp] theorem Forest.preorder_cons (w : Widget) (children rest : Forest) :
    Forest.preorder (⟨w, children⟩ :: rest) =
      ⟨w, children⟩ ::
        ((if w.kind.isWrapper then Forest.preorder children else []) ++ Forest.preorder rest) := by
  rw [Forest.preorder, Component.anchoredChildren_eq, Forest.preorder_append]
  cases w.kind.isWrapper <;> simp

end StaticSite
