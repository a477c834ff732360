import StaticSite.Proofs.Component.Preorder
import StaticSite.Proofs.Css.Identifiers
import StaticSite.Proofs.Html.Templates
import StaticSite.Proofs.Site.Agreement

/-!
# Selecting the element of a component

A component is styled when the selector of its rules demands the id that a reader of the markup
gets for its element. Escaping writes `<` as an escape and leaves everything else in an id as it
is, so this holds exactly for the ids that can stand in a selector apart from `<`. A digit in
front, a dot or a space anywhere in an id is enough to lose the rules of its component.
-/

namespace StaticSite

open Css Html

/-- Behind its margin a text begins with a selector that demands this id and nothing else, and with
the block of the selector. -/
def Css.Selects (text : List Char) (id : String) : Prop :=
  ∃ block, readSelector (text.dropWhile isSpace) = some (id.toList, ' ' :: '\x7b' :: block)

/-- The rule that every component has. -/
def Widget.mainRule (w : Widget) : Rule :=
  ⟨w.selector, w.placement ++ w.dimensions ++ w.styleDeclarations⟩

/-- The rule that texts and headings have besides. -/
def Widget.narrowRule (w : Widget) : Rule :=
  ⟨w.selector, [⟨"font-size", w.mobileFont⟩]⟩

theorem Widget.rules_eq (mode : EscapeMode) (w : Widget) :
    w.rules mode = w.mainRule.write mode 0 ++
      if w.kind.isTypographic then
        "@media (max-width: 768px) \x7b\n" ++ w.narrowRule.write mode 1 ++ "\x7d\n"
      else "" := by
  unfold Widget.rules Widget.blocks
  have hcondition : "@media (" ++ mobileCondition ++ ") \x7b\n" =
      "@media (max-width: 768px) \x7b\n" := by
    decide
  split
  · simp [Block.write, hcondition, mainRule, narrowRule]
  · simp [Block.write, mainRule]

/-- A rule for an id is written as its margin, the selector and the block. -/
theorem Css.Rule.write_opened (depth : Nat) (id : String) (declarations : List Declaration) :
    ∃ block, (Rule.write .escaped depth ⟨"#" ++ id, declarations⟩).toList =
      List.replicate (4 * depth) ' ' ++ '#' :: opened block id.toList := by
  refine ⟨'\n' :: (String.join (declarations.map (Declaration.write .escaped (depth + 1))) ++
    margin depth ++ "\x7d\n").toList, ?_⟩
  simp [Rule.write, margin, EscapeMode.css, Text.escapeCss_eq_escapeWith, Text.escapeWith, opened,
    Text.cssChar]

theorem Css.Rule.selects_iff (depth : Nat) (id : String) (declarations : List Declaration) :
    Selects (Rule.write .escaped depth ⟨"#" ++ id, declarations⟩).toList id ↔ Selectable id := by
  obtain ⟨block, hwritten⟩ := Rule.write_opened depth id declarations
  have hmargin : (List.replicate (4 * depth) ' ' ++ '#' :: opened block id.toList).dropWhile isSpace
      = '#' :: opened block id.toList := by
    rw [List.dropWhile_append_of_pos]
    · rfl
    · intro c hc
      rw [List.eq_of_mem_replicate hc]
      rfl
  rw [Selects, hwritten, hmargin]
  constructor
  · rintro ⟨_, hread⟩
    exact selectable_of_read block hread
  · intro h
    exact ⟨block, h.read block⟩

/-- A reader of escaped markup gets the ids of the walk. -/
theorem Forest.escaped_anchors (forest : Forest) :
    ∃ tokens, tokenize (forest.render .escaped) = some tokens ∧
      (tokens.map Token.decoded).flatMap Token.ids = forest.preorder.map (·.widget.id) := by
  have htemplates := forest.markup_fromTemplates .escaped
  obtain ⟨tokens, htokens, hids⟩ :=
    Forest.read_anchors (htemplates.readable htemplates.written_escaped)
  refine ⟨tokens, htokens, hids.trans (List.map_congr_left fun c _ => ?_)⟩
  exact Text.decodeEntities_escapeHtml c.widget.id

/-- A reader of the escaped markup of a component gets its id first. The selectors of its rules, in
front of the block and on narrow screens, demand the same id exactly where the id can be selected:
where it holds only characters of identifiers and `<`, and begins like an identifier. -/
theorem selected_exact (c : Component) :
    (∃ tokens others, tokenize (Forest.render .escaped [c]) = some tokens ∧
      (tokens.map Token.decoded).flatMap Token.ids = c.widget.id :: others) ∧
    c.widget.rules .escaped = c.widget.mainRule.write .escaped 0 ++
      (if c.widget.kind.isTypographic then
        "@media (max-width: 768px) \x7b\n" ++ c.widget.narrowRule.write .escaped 1 ++ "\x7d\n"
      else "") ∧
    (Selects (c.widget.mainRule.write .escaped 0).toList c.widget.id ↔ Selectable c.widget.id) ∧
    (Selects (c.widget.narrowRule.write .escaped 1).toList c.widget.id ↔
      Selectable c.widget.id) := by
  obtain ⟨tokens, htokens, hids⟩ := Forest.escaped_anchors [c]
  have hfirst : Forest.preorder [c] = c :: (Forest.preorder [c]).tail := by
    obtain ⟨w, children⟩ := c
    rw [Forest.preorder_cons, List.tail_cons]
  rw [hfirst, List.map_cons] at hids
  exact ⟨⟨tokens, _, htokens, hids⟩, c.widget.rules_eq .escaped, Rule.selects_iff 0 _ _,
    Rule.selects_iff 1 _ _⟩

example : Selectable "-<\u00e9" ∧ Selectable "card_9" ∧ ¬Selectable "a.b" ∧ ¬Selectable "a b" := by
  decide

/-- A heading with an id that begins with a digit, as many random ids do. -/
def numberedHeading : Widget :=
  { id := "1a", kind := .heading }

/-- The digit would have to be escaped. -/
theorem numberedHeading_unselected :
    ¬Selects (numberedHeading.mainRule.write .escaped 0).toList "1a" ∧
      ¬Selects (numberedHeading.narrowRule.write .escaped 1).toList "1a" ∧
      Selects "#\\31 a \x7b\n".toList "1a" := by
  have hdigit : ¬Selectable "1a" := by decide
  refine ⟨?_, ?_, ['\n'], ?_⟩
  · exact fun h => hdigit ((Rule.selects_iff 0 "1a" _).mp h)
  · exact fun h => hdigit ((Rule.selects_iff 1 "1a" _).mp h)
  · decide +kernel

end StaticSite
