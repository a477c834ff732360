import StaticSite.Css.Stylesheet
import StaticSite.Proofs.Html.Anchors
import StaticSite.Proofs.Script.Lookups

/-!
# Markup, style sheet and script of a forest

The three outputs tell the same components: the ids in the markup are those of the walk, the style
sheet has one entry for each of them, and the script looks up those of the wired ones. Escaped
outputs always agree. Where texts are inserted as they are, they agree as long as no text has
characters that HTML or a script read as their own, and no handler leaves something open that takes
in the rest of the script.
-/

namespace StaticSite

open Html Script

/-! ## Agreement -/

/-- A component without the children that have anchors of their own. -/
def Component.alone (c : Component) : Component :=
  if c.widget.kind.isWrapper then ⟨c.widget, []⟩ else c

/-- The strings that the markup of a component inserts where nothing is escaped. -/
def Component.inserted (c : Component) : List String :=
  written .verbatim (c.alone.markup .verbatim)

theorem written_onLines {mode : EscapeMode} {nodes : List Html} {s : String}
    (hs : s ∈ writtenAll mode (Html.onLines nodes)) :
    s = mode.html "\n" ∨ s ∈ writtenAll mode nodes := by
  unfold Html.onLines at hs
  induction nodes with
  | nil => exact Or.inr hs
  | cons node rest ih =>
      cases rest with
      | nil => exact Or.inr hs
      | cons next rest =>
          simp only [List.intersperse_cons_cons, writtenAll, Html.newline, written,
            List.mem_append, List.mem_singleton] at hs ih ⊢
          rcases hs with hnode | hline | hrest
          · exact Or.inr (Or.inl hnode)
          · exact Or.inl hline
          · exact (ih hrest).imp id Or.inr

theorem Component.written_markup_mk {w : Widget} {children : Forest} {s : String}
    (hs : s ∈ written .verbatim (Component.markup .verbatim ⟨w, children⟩)) :
    s ∈ Component.inserted ⟨w, children⟩ ∨
      w.kind.isWrapper = true ∧ s ∈ writtenAll .verbatim (Forest.markup .verbatim children) := by
  unfold Component.inserted Component.alone
  by_cases hwrapper : w.kind.isWrapper = true
  · rw [Component.markup_wrapper .verbatim hwrapper, written, List.mem_append] at hs
    rw [if_pos hwrapper, Component.markup_wrapper .verbatim hwrapper, written, List.mem_append]
    exact hs.imp Or.inl fun hchildren => ⟨hwrapper, hchildren⟩
  · rw [if_neg hwrapper]
    exact Or.inl hs

theorem written_markupAll {forest : Forest} {s : String}
    (hs : s ∈ writtenAll .verbatim (markupAll .verbatim forest)) :
    s = "\n" ∨ ∃ c ∈ forest.preorder, s ∈ c.inserted := by
  induction forest using Forest.induction with
  | nil => simp [markupAll, writtenAll] at hs
  | cons w children rest ihChildren ihRest =>
      rw [Forest.preorder_cons]
      rcases List.mem_append.mp hs with hfirst | hrest
      · rcases Component.written_markup_mk hfirst with hself | ⟨hwrapper, hbelow⟩
        · exact Or.inr ⟨_, List.mem_cons_self, hself⟩
        · rcases written_onLines hbelow with hline | hchildren
          · exact Or.inl hline
          · rcases ihChildren hchildren with hline | ⟨c, hc, hinserted⟩
            · exact Or.inl hline
            · have hbelow : c ∈ if w.kind.isWrapper then children.preorder else [] := by
                simpa only [if_pos hwrapper] using hc
              exact Or.inr
                ⟨c, List.mem_cons_of_mem _ (List.mem_append_left _ hbelow), hinserted⟩
      · rcases ihRest hrest with hline | ⟨c, hc, hinserted⟩
        · exact Or.inl hline
        · exact Or.inr ⟨c, List.mem_cons_of_mem _ (List.mem_append_right _ hc), hinserted⟩

/-- What the markup of a forest inserts belongs to some component that the walk visits. -/
theorem Forest.written_markup {forest : Forest} {s : String}
    (hs : s ∈ writtenAll .verbatim (forest.markup .verbatim)) :
    s = "\n" ∨ ∃ c ∈ forest.preorder, s ∈ c.inserted := by
  rcases written_onLines hs with hline | hall
  · exact Or.inl hline
  · exact written_markupAll hall

/-! ## Texts that are inserted as they are -/

/-- A text without quotes, angle brackets, backslashes and line breaks. -/
def Bland (s : String) : Prop :=
  ∀ c ∈ s.toList, c ∉ ['"', '\'', '<', '>', '\\', '\n', '\r']

instance (s : String) : Decidable (Bland s) :=
  List.decidableBAll _ s.toList

/-- No id and no string that the markup inserts ends a text of HTML or of a script. -/
structure Forest.IsBland (forest : Forest) : Prop where
  ids : ∀ c ∈ forest.preorder, Bland c.widget.id
  inserted : ∀ c ∈ forest.preorder, ∀ s ∈ c.inserted, Bland s

theorem Bland.harmless {s : String} (h : Bland s) : Harmless s := by
  constructor
  · intro hmem
    exact h '<' hmem (by decide)
  · intro hmem
    exact h '"' hmem (by decide)

theorem Bland.isLiteral {s : String} (h : Bland s) : IsLiteral s s := by
  apply isLiteral_of_plain
  intro c hc
  have hplain := h c hc
  simp only [List.mem_cons, List.not_mem_nil, or_false, not_or] at hplain
  exact ⟨hplain.2.1, hplain.2.2.2.2.1, hplain.2.2.2.2.2⟩

theorem Forest.IsBland.readable {forest : Forest} (h : forest.IsBland) :
    ReadableAll .verbatim (forest.markup .verbatim) := by
  apply (forest.markup_fromTemplates .verbatim).readable
  intro s hs
  rcases Forest.written_markup hs with rfl | ⟨c, hc, hinserted⟩
  · exact ⟨by decide, by decide⟩
  · exact (h.inserted c hc s hinserted).harmless

/-- A reader of the markup gets the ids of the walk, with the entities replaced in what is
written. -/
theorem Forest.read_anchors {mode : EscapeMode} {forest : Forest}
    (h : ReadableAll mode (forest.markup mode)) :
    ∃ tokens, tokenize (forest.render mode) = some tokens ∧
      (tokens.map Token.decoded).flatMap Token.ids =
        forest.preorder.map fun c => Text.decodeEntities (mode.html c.widget.id) := by
  refine ⟨_, Html.tokenize_writeAll h, ?_⟩
  have hanchors := congrArg (List.map Text.decodeEntities) (forest.anchors_markup mode)
  rw [Html.anchors, List.map_flatMap, List.map_map] at hanchors
  rw [List.flatMap_map]
  simpa only [Token.ids_decoded, Function.comp_def] using hanchors

/-- Nothing in the texts of a forest reads as something else where it is inserted: no id holds an
entity, and every handler, read as a line of its own, leaves no template, comment or regular
expression open and passes no template to `getElementById`. -/
structure Forest.IsPlain (slashes : Slashes) (forest : Forest) : Prop extends forest.IsBland where
  entities : ∀ c ∈ forest.preorder, Text.decodeEntities c.widget.id = c.widget.id
  handlers : ∀ c ∈ forest.preorder, c.widget.kind = .button →
    ∀ handler ∈ c.widget.props.text? "onClick",
      Script.lookups slashes (handler ++ "\n") = some []

theorem Forest.IsPlain.wirings {slashes : Slashes} {forest : Forest}
    (h : forest.IsPlain slashes) :
    ∀ wiring ∈ forest.wirings .verbatim, wiring.Readable slashes .verbatim := by
  intro wiring hwiring
  obtain ⟨c, hc, rfl | ⟨_, hkind, handler, hhandler, rfl⟩⟩ := Forest.wirings_cases hwiring
  · exact Wiring.readable_submit (h.ids c hc).isLiteral
  · refine ⟨(h.ids c hc).isLiteral, fun line hline => ?_⟩
    obtain rfl := List.mem_singleton.mp hline
    exact h.handlers c hc hkind line hhandler

end StaticSite
