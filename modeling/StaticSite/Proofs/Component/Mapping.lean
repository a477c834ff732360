import StaticSite.Proofs.Component.Preorder

/-!
# Changing the widgets of a forest

`Forest.mapWidgets` changes every widget of a forest, shown or not, and keeps the tree. Where the
kinds stay, the walk visits the changed components in the order of the old ones.
-/

namespace StaticSite

mutual

/-- A component with every widget of its tree changed. -/
def Component.mapWidgets (f : Widget → Widget) : Component → Component
  | ⟨w, children⟩ => ⟨f w, Forest.mapWidgets f children⟩

def Forest.mapWidgets (f : Widget → Widget) : Forest → Forest
  | [] => []
  | c :: rest => c.mapWidgets f :: Forest.mapWidgets f rest

end

@[simp] theorem Forest.mapWidgets_nil (f : Widget → Widget) : Forest.mapWidgets f [] = [] := by
  rw [Forest.mapWidgets]

@[simp] theorem Forest.mapWidgets_cons (f : Widget → Widget) (w : Widget)
    (children rest : Forest) :
    Forest.mapWidgets f (⟨w, children⟩ :: rest) =
      ⟨f w, children.mapWidgets f⟩ :: rest.mapWidgets f := by
  rw [Forest.mapWidgets, Component.mapWidgets]

theorem Forest.mapWidgets_map_widget (f : Widget → Widget) (forest : Forest) :
    (forest.mapWidgets f).map (·.widget) = (forest.map (·.widget)).map f := by
  induction forest using Forest.induction with
  | nil => simp
  | cons w children rest _ ihRest => simpa using ihRest

theorem Forest.preorder_mapWidgets {f : Widget → Widget}
    (hkind : ∀ w, (f w).kind.isWrapper = w.kind.isWrapper) (forest : Forest) :
    (forest.mapWidgets f).preorder.map (·.widget) = (forest.preorder.map (·.widget)).map f := by
  induction forest using Forest.induction with
  | nil => simp
  | cons w children rest ihChildren ihRest =>
      rw [Forest.mapWidgets_cons, Forest.preorder_cons, Forest.preorder_cons, hkind]
      by_cases hwrapper : w.kind.isWrapper = true
      · simp [hwrapper, ihChildren, ihRest]
      · simp [hwrapper, ihRest]

end StaticSite
