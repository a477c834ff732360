import StaticSite.Proofs.Component.Preorder
import StaticSite.Proofs.Css.PropertyNames
import StaticSite.Proofs.Css.Reader
import StaticSite.Proofs.Decimal.Numerals

/-!
# Reading the style sheet of a page

Where the ids and the styles of the components hold no marks of a sheet, a reader gets the blocks of
the components back, in the order of the walk and nothing besides. The walk is followed component by
component; the margins, units and other texts that the writer adds hold no marks of their own.
-/

namespace StaticSite

open Css

/-- The texts that a component brings into a style sheet hold no marks of one. -/
structure Widget.Unmarked (w : Widget) : Prop where
  id : Css.Unmarked w.id
  names : ∀ style ∈ w.styles, UnmarkedName style.1
  values : ∀ style ∈ w.styles, Css.Unmarked style.2.display

instance (w : Widget) : Decidable w.Unmarked :=
  decidable_of_iff (Css.Unmarked w.id ∧ (∀ style ∈ w.styles, UnmarkedName style.1) ∧
      ∀ style ∈ w.styles, Css.Unmarked style.2.display)
    ⟨fun ⟨hid, hnames, hvalues⟩ => ⟨hid, hnames, hvalues⟩, fun hw => ⟨hw.id, hw.names, hw.values⟩⟩

/-- How a component is styled: by its place, its size and its styles, and on narrow screens by a
smaller font if it is a text or a heading. -/
def Widget.styling (w : Widget) : List Block :=
  let selector := "#" ++ w.id
  let place : List Declaration :=
    match w.position with
    | some p =>
      [⟨"position", "absolute"⟩, ⟨"left", Decimal.plain p.x ++ "px"⟩,
        ⟨"top", Decimal.plain p.y ++ "px"⟩]
    | none => [⟨"position", "relative"⟩]
  let extent : List Declaration :=
    match w.size with
    | some s =>
      [⟨"width", Decimal.plain s.width ++ "px"⟩, ⟨"height", Decimal.plain s.height ++ "px"⟩]
    | none => []
  let styles : List Declaration :=
    w.styles.map fun (name, value) => ⟨kebabCase name, value.display⟩
  let narrowFont :=
    match Json.Members.get? "fontSize" w.styles with
    | some size => if size.isTruthy then "calc(" ++ size.display ++ " * 0.8)" else "14px"
    | none => "14px"
  .rule ⟨selector, place ++ extent ++ styles⟩ ::
    if w.kind ∈ [.text, .heading] then
      [.media "max-width: 768px" [⟨selector, [⟨"font-size", narrowFont⟩]⟩]]
    else []

theorem Kind.isTypographic_iff {kind : Kind} :
    kind.isTypographic = true ↔ kind ∈ [.text, .heading] := by
  cases kind <;> simp [Kind.isTypographic]

theorem Widget.mobileFont_eq (w : Widget) :
    w.mobileFont =
      match Json.Members.get? "fontSize" w.styles with
      | some size => if size.isTruthy then "calc(" ++ size.display ++ " * 0.8)" else "14px"
      | none => "14px" := by
  unfold Widget.mobileFont
  cases Json.Members.get? "fontSize" w.styles with
  | none => rfl
  | some size => cases hsize : size.isTruthy <;> simp [Option.filter, hsize, mobileFontSize]

theorem Widget.blocks_eq_styling (w : Widget) : w.blocks = w.styling := by
  have hcondition : mobileCondition = "max-width: 768px" := rfl
  unfold Widget.blocks Widget.styling
  rw [hcondition, w.mobileFont_eq]
  simp only [Kind.isTypographic_iff]
  rfl

/-! ## What the writer adds -/

theorem unmarked_pixels (x : Float) : Css.Unmarked (pixels x) := by
  have hnumeral : Css.Unmarked (Decimal.plain x) := by
    intro c hc
    exact isMark_eq_false (p := fun c => Decimal.isNumeralChar c = true) (by decide)
      (Decimal.isNumeral_plain x c hc)
  exact unmarked_append.mpr ⟨hnumeral, by decide⟩

theorem unmarkedName_kebabCase {name : String} (h : UnmarkedName name) :
    UnmarkedName (kebabCase name) := by
  constructor
  · intro c hc
    rcases mem_kebabCase hc with hname | hother
    · exact h.1 c hname
    · exact isMark_eq_false (p := fun c => c = '-' ∨ 'a' ≤ c ∧ c ≤ 'z' ∨ 0x80 ≤ c.toNat)
        (by decide) hother
  · intro hcolon
    rcases mem_kebabCase hcolon with hname | hother
    · exact h.2 hname
    · exact absurd hother (by decide)

theorem Widget.unmarked_placement (w : Widget) : ∀ d ∈ w.placement, d.Unmarked := by
  unfold Widget.placement
  cases w.position with
  | none => exact List.forall_mem_singleton.mpr ⟨by decide, by decide⟩
  | some p =>
      simp only [List.forall_mem_cons]
      exact ⟨⟨by decide, by decide⟩, Declaration.unmarked_mk (by decide) (unmarked_pixels p.x),
        Declaration.unmarked_mk (by decide) (unmarked_pixels p.y), List.forall_mem_nil _⟩

theorem Widget.unmarked_dimensions (w : Widget) : ∀ d ∈ w.dimensions, d.Unmarked := by
  unfold Widget.dimensions
  cases w.size with
  | none => exact List.forall_mem_nil _
  | some s =>
      simp only [List.forall_mem_cons]
      exact ⟨Declaration.unmarked_mk (by decide) (unmarked_pixels s.width),
        Declaration.unmarked_mk (by decide) (unmarked_pixels s.height), List.forall_mem_nil _⟩

namespace Widget.Unmarked

variable {w : Widget}

theorem selector (hw : w.Unmarked) : Css.Unmarked w.selector :=
  unmarked_append.mpr ⟨by decide, hw.id⟩

theorem styleDeclarations (hw : w.Unmarked) : ∀ d ∈ w.styleDeclarations, d.Unmarked := by
  intro d hd
  obtain ⟨style, hstyle, rfl⟩ := List.mem_map.mp hd
  exact ⟨unmarkedName_kebabCase (hw.names style hstyle), hw.values style hstyle⟩

theorem mobileFont (hw : w.Unmarked) : Css.Unmarked w.mobileFont := by
  unfold Widget.mobileFont
  split
  · next size hsize =>
    have hlookup := (Option.filter_eq_some_iff.mp hsize).1
    obtain ⟨before, behind, hstyles, -⟩ := List.lookup_eq_some_iff.mp hlookup
    have hmem : ("fontSize", size) ∈ w.styles := by
      rw [hstyles]
      exact List.mem_append_right _ List.mem_cons_self
    rw [unmarked_append, unmarked_append]
    exact ⟨⟨by decide, hw.values _ hmem⟩, by decide⟩
  · decide

theorem blocks (hw : w.Unmarked) : ∀ b ∈ w.blocks, b.Unmarked := by
  have hat : w.selector.toList.head? ≠ some '@' := by
    simp [Widget.selector]
  have hmain : (Block.rule
      ⟨w.selector, w.placement ++ w.dimensions ++ w.styleDeclarations⟩).Unmarked := by
    refine ⟨hw.selector, hat, ?_⟩
    simp only [List.forall_mem_append]
    exact ⟨⟨w.unmarked_placement, w.unmarked_dimensions⟩, hw.styleDeclarations⟩
  have hnarrow : (Block.media mobileCondition
      [⟨w.selector, [⟨"font-size", w.mobileFont⟩]⟩]).Unmarked := by
    refine ⟨by decide, List.forall_mem_singleton.mpr ⟨hw.selector, hat, ?_⟩⟩
    exact List.forall_mem_singleton.mpr (Declaration.unmarked_mk (by decide) hw.mobileFont)
  unfold Widget.blocks
  split
  · exact List.forall_mem_cons.mpr ⟨hmain, List.forall_mem_singleton.mpr hnarrow⟩
  · exact List.forall_mem_singleton.mpr hmain

end Widget.Unmarked

/-! ## The walk -/

theorem read_walk (before : List Block) {cs : List Component} (hcs : ∀ c ∈ cs, c.widget.Unmarked) :
    Text.read Reading.step ⟨.top before, none, ""⟩
        (String.join (cs.map fun c => "\n" ++ c.widget.rules .verbatim)) =
      some ⟨.top (before ++ cs.flatMap (·.widget.blocks)), none, ""⟩ := by
  induction cs generalizing before with
  | nil => rw [List.map_nil, String.join_nil, Text.read_empty, List.flatMap_nil, List.append_nil]
  | cons c cs ih =>
      obtain ⟨hc, hrest⟩ := List.forall_mem_cons.mp hcs
      rw [List.map_cons, String.join_cons, Text.read_append, Text.read_append, read_newline,
        Option.bind_some, Widget.rules, read_blocks before hc.blocks, Option.bind_some,
        ih _ hrest, List.flatMap_cons, List.append_assoc]

/-- Behind the rules that every page has, a style sheet is read as the styling of the components of
the walk, one after the other. -/
theorem stylesheet_read {forest : Forest} (hforest : ∀ c ∈ forest.preorder, c.widget.Unmarked) :
    ∃ rest, forest.stylesheet .verbatim = prelude ++ rest ∧
      readSheet rest = some (forest.preorder.flatMap (·.widget.styling)) := by
  refine ⟨_, rfl, ?_⟩
  rw [readSheet, read_walk [] hforest, List.nil_append]
  simp only [Widget.blocks_eq_styling]

/-- A section with a heading on its canvas and a note whose own size of the font is empty. -/
def styledForest : Forest :=
  [⟨{ id := "hero", kind := .section, size := some ⟨640, 480⟩ },
    [⟨{ id := "title", kind := .heading, position := some ⟨8, 16⟩
        styles := [("fontSize", .string "2em"), ("WebkitTransition", .string "all 1s")] }, []⟩,
      ⟨{ id := "note", kind := .text, styles := [("fontSize", .string "")] }, []⟩]⟩]

theorem styledForest_read :
    (∀ c ∈ styledForest.preorder, c.widget.Unmarked) ∧
    ∃ rest, styledForest.stylesheet .verbatim = prelude ++ rest ∧
      readSheet rest = some
        [.rule ⟨"#hero", [⟨"position", "relative"⟩, ⟨"width", Decimal.plain 640 ++ "px"⟩,
            ⟨"height", Decimal.plain 480 ++ "px"⟩]⟩,
          .rule ⟨"#title", [⟨"position", "absolute"⟩, ⟨"left", Decimal.plain 8 ++ "px"⟩,
            ⟨"top", Decimal.plain 16 ++ "px"⟩, ⟨"font-size", "2em"⟩,
            ⟨"-webkit-transition", "all 1s"⟩]⟩,
          .media "max-width: 768px" [⟨"#title", [⟨"font-size", "calc(2em * 0.8)"⟩]⟩],
          .rule ⟨"#note", [⟨"position", "relative"⟩, ⟨"font-size", ""⟩]⟩,
          .media "max-width: 768px" [⟨"#note", [⟨"font-size", "14px"⟩]⟩]] := by
  have hunmarked : ∀ c ∈ styledForest.preorder, c.widget.Unmarked := by
    simp only [styledForest, Forest.preorder_cons, Forest.preorder_nil]
    decide
  refine ⟨hunmarked, ?_⟩
  obtain ⟨rest, hwrite, hread⟩ := stylesheet_read hunmarked
  refine ⟨rest, hwrite, hread.trans ?_⟩
  simp only [styledForest, Forest.preorder_cons, Forest.preorder_nil]
  rfl

end StaticSite
