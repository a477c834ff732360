import StaticSite.Proofs.Component.Preorder
import StaticSite.Proofs.Html.Rendering
import StaticSite.Site.Compile

/-!
# The report of what is not shown

Style sheet, script and page module enter the same children as the markup. So the index reports
exactly the children that do not count: a page without them compiles to the same documents, and
without any other child, in reach of the roots, its markup is shorter.
-/

namespace StaticSite

/-! ## Trimming and the other outputs -/

theorem Forest.preorder_trimmed (forest : Forest) :
    (forest.trimmed fun _ => true).preorder.map (·.widget) =
      forest.preorder.map (·.widget) := by
  induction forest using Forest.induction with
  | nil => simp
  | cons w children rest ihChildren ihRest =>
      rw [Forest.trimmed_cons, if_pos rfl, Forest.preorder_cons, Forest.preorder_cons]
      by_cases hwrapper : w.kind.isWrapper = true
      · have hshows : Component.shows ⟨w, children⟩ = fun _ => true :=
          Component.shows_wrapper hwrapper
        simp [hwrapper, hshows, ihChildren, ihRest]
      · simp [hwrapper, ihRest]

theorem Forest.stylesheet_eq_widgets (mode : EscapeMode) (forest : Forest) :
    forest.stylesheet mode =
      prelude ++ String.join
        ((forest.preorder.map (·.widget)).map fun w => "\n" ++ w.rules mode) := by
  simp [Forest.stylesheet, Function.comp_def]

theorem Forest.stylesheet_trimmed (mode : EscapeMode) (forest : Forest) :
    (forest.trimmed fun _ => true).stylesheet mode = forest.stylesheet mode := by
  rw [Forest.stylesheet_eq_widgets, Forest.stylesheet_eq_widgets, Forest.preorder_trimmed]

theorem Forest.wirings_eq_widgets (mode : EscapeMode) (forest : Forest) :
    forest.wirings mode =
      (forest.preorder.map (·.widget)).filterMap (Widget.wiring? mode) := by
  simp [Forest.wirings, List.filterMap_map]

theorem Forest.script_trimmed (mode : EscapeMode) (forest : Forest) :
    (forest.trimmed fun _ => true).script mode = forest.script mode := by
  unfold Forest.script
  rw [Forest.wirings_eq_widgets, Forest.wirings_eq_widgets, Forest.preorder_trimmed]

theorem jsxAll_trimmed (mode : EscapeMode) (forest : Forest) :
    jsxAll mode (forest.trimmed fun _ => true) = jsxAll mode forest := by
  induction forest using Forest.induction with
  | nil => simp
  | cons w children rest ihChildren ihRest =>
      rw [Forest.trimmed_cons, if_pos rfl, jsxAll, jsxAll, ihRest, Component.jsx, Component.jsx]
      by_cases hwrapper : w.kind.isWrapper = true
      · have hshows : Component.shows ⟨w, children⟩ = fun _ => true :=
          Component.shows_wrapper hwrapper
        rw [if_pos hwrapper, if_pos hwrapper, hshows, ihChildren]
      · rw [if_neg hwrapper, if_neg hwrapper]

/-! ## Documents -/

def Page.withComponents (page : Page) (components : Forest) : Page :=
  { page with components }

/-- A document reads the components through their markup, style sheet, script and JSX. -/
theorem Page.compile_withComponents {options : Options} {page : Page} {components : Forest}
    (hmarkup : components.markup options.mode = page.components.markup options.mode)
    (hstyles : components.stylesheet options.mode = page.components.stylesheet options.mode)
    (hscript : components.script options.mode = page.components.script options.mode)
    (hjsx : jsxAll options.mode components = jsxAll options.mode page.components)
    (project : Project) (variant : Variant) :
    (page.withComponents components).compile options project variant =
      page.compile options project variant := by
  have hcss : (page.withComponents components).css options.mode = page.css options.mode := by
    simp [Page.css, Page.withComponents, hstyles]
  have hjs : (page.withComponents components).js options.mode = page.js options.mode := by
    simp [Page.js, Page.withComponents, hscript]
  have htree (lines : List Html) : (page.withComponents components).documentTree options lines =
      page.documentTree options lines := by
    unfold Page.documentTree
    rw [hcss, hjs]
    simp [Page.withComponents, hmarkup]
  have hhead : Head.ofPage (page.withComponents components) project = Head.ofPage page project :=
    rfl
  have hroot : (page.withComponents components).rootElement options.mode =
      page.rootElement options.mode := by
    unfold Page.rootElement Page.withComponents
    simp only [hjsx]
    rfl
  have hhtml : (page.withComponents components).htmlDocument options project =
      page.htmlDocument options project := by
    unfold Page.htmlDocument
    rw [hhead]
    exact congrArg (writeAll options.mode) (htree _)
  have hphp : (page.withComponents components).phpDocument options project =
      page.phpDocument options project := by
    unfold Page.phpDocument
    rw [hhead, htree]
  have hmodule : (page.withComponents components).moduleText options.mode =
      page.moduleText options.mode := by
    unfold Page.moduleText
    rw [hroot]
    rfl
  cases variant with
  | html => exact hhtml
  | php => exact hphp
  | react => exact hmodule

theorem Page.compile_without_dropped {page : Page} {index : Index}
    (hindex : Index.ofForest page.components = .ok index) (options : Options) (project : Project)
    (variant : Variant) :
    (page.withComponents (page.components.without index.droppedIds)).compile options project
        variant =
      page.compile options project variant := by
  rw [Index.without_droppedIds hindex]
  apply Page.compile_withComponents
  · unfold Forest.markup
    rw [markupAll_trimmed]
  · exact page.components.stylesheet_trimmed options.mode
  · exact page.components.script_trimmed options.mode
  · exact jsxAll_trimmed options.mode page.components

/-- The report of an index is exact: no document changes without the reported children, and the
markup is shorter without a child that is not reported and has no reported edge above it. -/
theorem unrendered_exact (page : Page) (index : Index)
    (hindex : Index.ofForest page.components = .ok index) :
    (∀ (options : Options) (project : Project) (variant : Variant),
        (page.withComponents
            (page.components.without (index.unrendered.map (·.2.widget.id)))).compile options
          project variant = page.compile options project variant) ∧
      ∀ (mode : EscapeMode) (p c : Component), index.Displays page.components p →
        c ∈ p.children → (p, c) ∉ index.unrendered →
          ((page.components.without [c.widget.id]).render mode).length <
            (page.components.render mode).length := by
  constructor
  · intro options project variant
    exact Page.compile_without_dropped hindex options project variant
  · intro mode p c hparent hchild hshown
    have hkept := (hparent.child hchild hshown).trimmed_mem hindex
    have hid : c.widget.id ∈ (page.components.trimmed fun _ => true).ids :=
      List.mem_map.mpr ⟨c.trimmed, hkept, by simp⟩
    exact Forest.length_render_without_lt mode (Index.ofForest_isOk_iff.mp ⟨index, hindex⟩) hid

/-- A text in a section, with a child that no output shows. -/
def captionedPage : Page :=
  { components :=
      [⟨{ id := "s", kind := .section },
        [⟨{ id := "t", kind := .text }, [⟨{ id := "x", kind := .image }, []⟩]⟩]⟩] }

def captionedIndex : Index :=
  ⟨Forest.nodes captionedPage.components, [[1], [2], []]⟩

theorem captionedPage_dropping :
    Index.ofForest captionedPage.components = .ok captionedIndex ∧
      (captionedPage.withComponents (captionedPage.components.without ["x"])).compile {} {} .html =
        captionedPage.compile {} {} .html ∧
      ((captionedPage.components.without ["t"]).render .escaped).length <
        (captionedPage.components.render .escaped).length := by
  have hindex : Index.ofForest captionedPage.components = .ok captionedIndex := by cbv
  have hexact := unrendered_exact captionedPage captionedIndex hindex
  refine ⟨hindex, hexact.1 {} {} .html, ?_⟩
  refine hexact.2 .escaped ⟨{ id := "s", kind := .section }, _⟩
    ⟨{ id := "t", kind := .text }, [⟨{ id := "x", kind := .image }, []⟩]⟩
    (.root List.mem_cons_self) List.mem_cons_self ?_
  intro hreported
  have hshown := ((Index.mem_unrendered_iff hindex).mp hreported).2.2
  simp [Component.shows, Kind.acceptsChildren] at hshown

end StaticSite
