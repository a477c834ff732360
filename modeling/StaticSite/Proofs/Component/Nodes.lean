import Mathlib.Data.List.Nodup
import StaticSite.Component.Assembly

/-!
# All components of a forest

`Forest.nodes` lists every component of a forest, shown or not, parents before children.
`Forest.records` lists the same components as flat records, each with the id of the component
above it. Both follow the tree, so facts about all components are proved by
`Forest.induction`, whose one step puts a component with its children in front of its siblings.
-/

namespace StaticSite

/-- A forest is empty, or a widget above a forest and beside another one. -/
@[elab_as_elim]
theorem Forest.induction {motive : Forest → Prop} (nil : motive [])
    (cons : ∀ w children rest, motive children → motive rest →
      motive (⟨w, children⟩ :: rest)) :
    (forest : Forest) → motive forest
  | [] => nil
  | ⟨w, children⟩ :: rest =>
      cons w children rest (Forest.induction nil cons children)
        (Forest.induction nil cons rest)
termination_by forest => countForest forest
decreasing_by
  all_goals simp only [countForest, Component.count]; omega

mutual

/-- A component and all that is below it. -/
def Component.nodes : Component → List Component
  | ⟨w, children⟩ => ⟨w, children⟩ :: Forest.nodes children

def Forest.nodes : Forest → List Component
  | [] => []
  | c :: rest => c.nodes ++ Forest.nodes rest

end

mutual

/-- A component below some parent, and all that is below it, as flat records. -/
def Component.records (parent : Option String) : Component → List Record
  | ⟨w, children⟩ => ⟨w, parent⟩ :: Forest.records (some w.id) children

def Forest.records (parent : Option String) : Forest → List Record
  | [] => []
  | c :: rest => c.records parent ++ Forest.records parent rest

end

/-- The ids of all components, shown or not. -/
def Forest.ids (forest : Forest) : List String :=
  forest.nodes.map (·.widget.id)

@[simp] theorem Component.nodes_eq (c : Component) :
    c.nodes = c :: Forest.nodes c.children := by
  cases c
  simp [Component.nodes]

@[simp] theorem Forest.nodes_nil : Forest.nodes [] = [] := by
  simp [Forest.nodes]

@[simp] theorem Forest.nodes_cons (c : Component) (rest : Forest) :
    Forest.nodes (c :: rest) = c :: (Forest.nodes c.children ++ Forest.nodes rest) := by
  simp [Forest.nodes]

@[simp] theorem Forest.nodes_append (a b : Forest) :
    Forest.nodes (a ++ b) = Forest.nodes a ++ Forest.nodes b := by
  induction a with
  | nil => simp
  | cons c rest ih => simp [ih]

theorem Forest.mem_nodes_of_mem {forest : Forest} {c : Component} (hc : c ∈ forest) :
    c ∈ forest.nodes := by
  induction forest with
  | nil => simp at hc
  | cons first rest ih =>
      rcases List.mem_cons.mp hc with rfl | hrest
      · simp
      · simp [ih hrest]

/-- The children of a component of a forest are components of the forest. -/
theorem Forest.nodes_subset_of_mem {forest : Forest} {p : Component}
    (hp : p ∈ forest.nodes) : Forest.nodes p.children ⊆ forest.nodes := by
  induction forest using Forest.induction with
  | nil => simp at hp
  | cons w children rest ihChildren ihRest =>
      simp only [Forest.nodes_cons, List.mem_cons, List.mem_append] at hp
      intro c hc
      simp only [Forest.nodes_cons, List.mem_cons, List.mem_append]
      rcases hp with rfl | hbelow | hbeside
      · exact Or.inr (Or.inl hc)
      · exact Or.inr (Or.inl (ihChildren hbelow hc))
      · exact Or.inr (Or.inr (ihRest hbeside hc))

/-- The records of a forest tell the same widgets, in the same order. -/
theorem Forest.records_map_widget (parent : Option String) (forest : Forest) :
    (forest.records parent).map (·.widget) = forest.nodes.map (·.widget) := by
  induction forest using Forest.induction generalizing parent with
  | nil => simp [Forest.records]
  | cons w children rest ihChildren ihRest =>
      simp [Forest.records, Component.records, ihChildren, ihRest]

@[simp] theorem Forest.records_nil (parent : Option String) :
    Forest.records parent [] = [] := by
  simp [Forest.records]

@[simp] theorem Forest.records_cons (parent : Option String) (w : Widget)
    (children rest : Forest) :
    Forest.records parent (⟨w, children⟩ :: rest) =
      ⟨w, parent⟩ :: (Forest.records (some w.id) children ++ Forest.records parent rest) := by
  simp [Forest.records, Component.records]

theorem Forest.mem_records_of_mem (parent : Option String) {forest : Forest} {c : Component}
    (hc : c ∈ forest) : ⟨c.widget, parent⟩ ∈ forest.records parent := by
  induction forest with
  | nil => simp at hc
  | cons first rest ih =>
      obtain ⟨w, children⟩ := first
      rcases List.mem_cons.mp hc with rfl | hrest
      · simp
      · simp [ih hrest]

theorem Forest.mem_records_of_child (parent : Option String) {forest : Forest}
    {p c : Component} (hp : p ∈ forest.nodes) (hc : c ∈ p.children) :
    ⟨c.widget, some p.widget.id⟩ ∈ forest.records parent := by
  induction forest using Forest.induction generalizing parent with
  | nil => simp at hp
  | cons w children rest ihChildren ihRest =>
      simp only [Forest.nodes_cons, List.mem_cons, List.mem_append] at hp
      simp only [Forest.records_cons, List.mem_cons, List.mem_append]
      rcases hp with rfl | hbelow | hbeside
      · exact Or.inr (Or.inl (Forest.mem_records_of_mem _ hc))
      · exact Or.inr (Or.inl (ihChildren _ hbelow))
      · exact Or.inr (Or.inr (ihRest _ hbeside))

@[simp] theorem Forest.ids_nil : Forest.ids [] = [] := by
  simp [Forest.ids]

@[simp] theorem Forest.ids_cons (w : Widget) (children rest : Forest) :
    Forest.ids (⟨w, children⟩ :: rest) = w.id :: (Forest.ids children ++ Forest.ids rest) := by
  simp [Forest.ids]

/-- Where ids are distinct, an id tells the widget and the parent. -/
theorem Forest.record_unique {parent : Option String} {forest : Forest}
    (hids : forest.ids.Nodup) {r s : Record} (hr : r ∈ forest.records parent)
    (hs : s ∈ forest.records parent) (hid : r.widget.id = s.widget.id) : r = s := by
  have hnodup : ((forest.records parent).map (·.widget.id)).Nodup := by
    have hwidgets := congrArg (List.map Widget.id) (forest.records_map_widget parent)
    simp only [List.map_map, Function.comp_def] at hwidgets
    rw [hwidgets]
    exact hids
  exact List.inj_on_of_nodup_map hnodup hr hs hid

end StaticSite
