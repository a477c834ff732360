import StaticSite.Css.Stylesheet
import StaticSite.Proofs.Component.Walking
import StaticSite.Proofs.Html.Rendering
import StaticSite.Proofs.Text.Entities
import StaticSite.Script.Wiring

/-!
# Forests side by side

Style sheet, script and markup go through the roots one after the other. So the outputs of two
forests side by side are those of the first and then those of the second, without what every page
begins with.
-/

namespace StaticSite

section Append

variable (mode : EscapeMode) (a b : Forest)

theorem Forest.stylesheet_append : ∃ rules, b.stylesheet mode = prelude ++ rules ∧
    Forest.stylesheet mode (a ++ b) = a.stylesheet mode ++ rules := by
  refine ⟨_, rfl, ?_⟩
  simp only [Forest.stylesheet, Forest.preorder_append, List.map_append, String.join_append,
    String.append_assoc]

theorem Forest.script_append : ∃ fragments, b.script mode = runtime ++ fragments ∧
    Forest.script mode (a ++ b) = a.script mode ++ fragments := by
  refine ⟨_, rfl, ?_⟩
  simp only [Forest.script, Forest.wirings, Forest.preorder_append, List.filterMap_append,
    List.map_append, String.join_append, String.append_assoc]

end Append

theorem EscapeMode.html_newline (mode : EscapeMode) : mode.html "\n" = "\n" := by
  cases mode with
  | verbatim => rfl
  | escaped => decide

/-- A newline stands between siblings, so it stands between two forests if neither is empty. -/
theorem Forest.render_append (mode : EscapeMode) {a b : Forest} (ha : a ≠ []) (hb : b ≠ []) :
    Forest.render mode (a ++ b) = a.render mode ++ "\n" ++ b.render mode := by
  obtain ⟨d, others, rfl⟩ := List.exists_cons_of_ne_nil hb
  induction a with
  | nil => exact absurd rfl ha
  | cons c rest ih =>
      cases rest with
      | nil =>
          rw [List.singleton_append, Forest.render_cons_cons, Forest.render_singleton,
            mode.html_newline, String.append_assoc]
      | cons e rest =>
          have hrest := ih (List.cons_ne_nil e rest)
          rw [List.cons_append] at hrest ⊢
          rw [List.cons_append, Forest.render_cons_cons, hrest, Forest.render_cons_cons]
          simp only [String.append_assoc]

/-- The walk through a forest comes to an end. It visits exactly the components of the tree below
wrappers only, in the order of the tree, and so the outputs of forests side by side stand side by
side. -/
theorem walk_exact (mode : EscapeMode) (a b : Forest) :
    (∀ visited, (Walk.ofForest a).Yields visited ↔ visited = a.preorder) ∧
      a.preorder = ((a.standings []).filter (·.isAnchored)).map (·.component) ∧
      (∀ index, Index.ofForest a = .ok index →
        a.preorder.Sublist index.nodes ∧ ∀ c ∈ index.nodes, c ∈ a.preorder ↔
          ∀ p ∈ index.nodes, c ∈ Forest.nodes p.children →
            p.widget.kind ∈ [.container, .section, .header, .footer]) ∧
      (∃ rules, b.stylesheet mode = prelude ++ rules ∧
        Forest.stylesheet mode (a ++ b) = a.stylesheet mode ++ rules) ∧
      (∃ fragments, b.script mode = runtime ++ fragments ∧
        Forest.script mode (a ++ b) = a.script mode ++ fragments) ∧
      (a ≠ [] → b ≠ [] →
        Forest.render mode (a ++ b) = a.render mode ++ "\n" ++ b.render mode) := by
  refine ⟨fun _ => Walk.yields_iff, a.preorder_eq_standings, ?_, Forest.stylesheet_append mode a b,
    Forest.script_append mode a b, Forest.render_append mode⟩
  intro index hindex
  have hids : a.ids.Nodup := Index.ofForest_isOk_iff.mp ⟨index, hindex⟩
  rw [(Index.ofForest_spec hindex).1]
  exact ⟨a.preorder_sublist_nodes, fun c hc => Forest.mem_preorder_iff hids hc⟩

/-- A form with a wrapped field, and a text with a child, below a section. -/
def layeredForest : Forest :=
  [⟨{ id := "page", kind := .section },
      [⟨{ id := "contact", kind := .form },
          [⟨{ id := "fields", kind := .container }, [⟨{ id := "mail", kind := .input }, []⟩]⟩]⟩,
        ⟨{ id := "note", kind := .text }, [⟨{ id := "mark", kind := .image }, []⟩]⟩]⟩]

def layeredIndex : Index :=
  ⟨layeredForest.nodes, [[1, 4], [2], [3], [], [5], []]⟩

theorem layeredForest_walked :
    (Walk.ofForest layeredForest).Yields layeredForest.preorder ∧
      Index.ofForest layeredForest = .ok layeredIndex ∧
      layeredForest.preorder.Sublist layeredIndex.nodes ∧
      Forest.render .escaped (layeredForest ++ layeredForest) =
        layeredForest.render .escaped ++ "\n" ++ layeredForest.render .escaped := by
  have hindex : Index.ofForest layeredForest = .ok layeredIndex := by cbv
  have hwalk := walk_exact .escaped layeredForest layeredForest
  have hne : layeredForest ≠ [] := List.cons_ne_nil _ _
  exact ⟨(hwalk.1 _).mpr rfl, hindex, (hwalk.2.2.1 _ hindex).1, hwalk.2.2.2.2.2 hne hne⟩

end StaticSite
