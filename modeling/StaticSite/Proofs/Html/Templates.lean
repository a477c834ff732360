import StaticSite.Proofs.Html.Reading
import StaticSite.Proofs.Text.Entities

/-!
# Templates

The rules of all kinds write a fixed list of tags, each with fixed names of attributes. A tree
made of them is readable as soon as its strings are, its tags are balanced, and its tokens come
from the list. Code of the user stands in it only where scripts are allowed.
-/

namespace StaticSite

open Html

namespace Html

/-- Elements without content, which have no end tag. -/
def voidTags : List String :=
  ["area", "base", "br", "col", "embed", "hr", "img", "input", "link", "meta", "source", "track",
    "wbr"]

/-- The tags of the rules with the names of their attributes. -/
def templates (mode : EscapeMode) : List (String × List String) :=
  (if mode.allowsScript then [("button", ["id", "class", "onclick"])] else []) ++
    [("p", ["id", "class"]), ("h1", ["id", "class"]), ("h2", ["id", "class"]),
      ("h3", ["id", "class"]), ("h4", ["id", "class"]), ("h5", ["id", "class"]),
      ("h6", ["id", "class"]), ("img", ["id", "src", "alt", "class"]),
      ("button", ["id", "class"]), ("div", ["id", "class"]), ("section", ["id", "class"]),
      ("header", ["id", "class"]), ("footer", ["id", "class"]),
      ("form", ["id", "class", "action", "method"]), ("button", ["type"]),
      ("input", ["id", "class", "type", "name", "placeholder"]),
      ("input", ["id", "class", "type", "name", "placeholder", "required"]),
      ("input", ["type", "name", "placeholder"]),
      ("input", ["type", "name", "placeholder", "required"]),
      ("textarea", ["id", "class", "name", "placeholder"]),
      ("textarea", ["id", "class", "name", "placeholder", "required"]),
      ("textarea", ["name", "placeholder"]), ("textarea", ["name", "placeholder", "required"]),
      ("select", ["id", "class", "name"]), ("select", ["id", "class", "name", "required"]),
      ("select", ["name"]), ("select", ["name", "required"]), ("option", ["value"]),
      ("nav", ["id", "class"]), ("ul", []), ("ol", []), ("li", []), ("a", ["href"]),
      ("video", ["id", "class", "src"]), ("video", ["id", "class", "src", "controls"]),
      ("img", ["src", "alt"]),
      ("div", ["id", "class", "data-lat", "data-lng", "data-zoom"]),
      ("blockquote", ["id", "class"]), ("p", []), ("cite", []), ("span", ["class"]),
      ("h3", []), ("p", ["class"]), ("h4", []), ("div", ["class"]), ("strong", []),
      ("span", []), ("div", ["id", "class", "data-view"])]

/-- Whether the text of an attribute is written as it is. -/
def isCode : Attribute → Bool
  | .code _ _ => true
  | _ => false

structure IsTemplate (mode : EscapeMode) (tag : String) (attributes : List Attribute) : Prop where
  known : (tag, attributes.map (·.name)) ∈ templates mode
  code : ∀ a ∈ attributes, isCode a = true → mode.allowsScript = true

theorem isTemplate_iff {mode : EscapeMode} {tag : String} {attributes : List Attribute} :
    IsTemplate mode tag attributes ↔
      (tag, attributes.map (·.name)) ∈ templates mode ∧
        ∀ a ∈ attributes, isCode a = true → mode.allowsScript = true :=
  ⟨fun h => ⟨h.known, h.code⟩, fun h => ⟨h.1, h.2⟩⟩

mutual

/-- A tree made of templates, in which no two texts stand next to each other. -/
@[simp] def FromTemplates (mode : EscapeMode) : Html → Prop
  | .text _ => True
  | .code _ => False
  | .void tag attributes => tag ∈ voidTags ∧ IsTemplate mode tag attributes
  | .element tag attributes children =>
    tag ∉ voidTags ∧ IsTemplate mode tag attributes ∧ AllFromTemplates mode children

@[simp] def AllFromTemplates (mode : EscapeMode) : List Html → Prop
  | [] => True
  | node :: rest =>
    FromTemplates mode node ∧ (node.isTag = true ∨ StopsText rest) ∧ AllFromTemplates mode rest

end

mutual

/-- The texts and values of a tree, as they are written. -/
def written (mode : EscapeMode) : Html → List String
  | .text s => [mode.html s]
  | .code s => [s]
  | .void _ attributes => attributes.filterMap (·.value? mode)
  | .element _ attributes children =>
    attributes.filterMap (·.value? mode) ++ writtenAll mode children

def writtenAll (mode : EscapeMode) : List Html → List String
  | [] => []
  | node :: rest => written mode node ++ writtenAll mode rest

end

/-- Siblings are none, or a node before other siblings. -/
@[elab_as_elim]
theorem induction {motive : List Html → Prop} (nil : motive [])
    (text : ∀ s rest, motive rest → motive (.text s :: rest))
    (code : ∀ s rest, motive rest → motive (.code s :: rest))
    (void : ∀ tag attributes rest, motive rest → motive (.void tag attributes :: rest))
    (element : ∀ tag attributes children rest, motive children → motive rest →
      motive (.element tag attributes children :: rest)) :
    (nodes : List Html) → motive nodes
  | [] => nil
  | .text s :: rest => text s rest (induction nil text code void element rest)
  | .code s :: rest => code s rest (induction nil text code void element rest)
  | .void tag attributes :: rest =>
      void tag attributes rest (induction nil text code void element rest)
  | .element tag attributes children :: rest =>
      element tag attributes children rest (induction nil text code void element children)
        (induction nil text code void element rest)

theorem templates_names (mode : EscapeMode) :
    ∀ template ∈ templates mode,
      isName template.1 = true ∧ ∀ name ∈ template.2, isName name = true := by
  cases mode <;> decide

variable {mode : EscapeMode}

/-! ## Readability -/

/-- A string that ends neither a run of text nor a quoted value. -/
structure Harmless (s : String) : Prop where
  angle : '<' ∉ s.toList
  quote : '"' ∉ s.toList

theorem IsTemplate.readable {tag : String} {attributes : List Attribute}
    (h : IsTemplate mode tag attributes)
    (hwritten : ∀ s ∈ attributes.filterMap (·.value? mode), Harmless s) :
    isName tag = true ∧ ∀ a ∈ attributes, a.Readable mode := by
  obtain ⟨htag, hnames⟩ := templates_names mode _ h.known
  refine ⟨htag, fun a ha => ⟨hnames a.name (List.mem_map_of_mem ha), ?_⟩⟩
  intro v hv
  exact (hwritten v (List.mem_filterMap.mpr ⟨a, ha, hv⟩)).quote

theorem AllFromTemplates.readable {nodes : List Html} (h : AllFromTemplates mode nodes)
    (hwritten : ∀ s ∈ writtenAll mode nodes, Harmless s) : ReadableAll mode nodes := by
  induction nodes using Html.induction with
  | nil => trivial
  | text s rest ih =>
      simp only [writtenAll, written, List.mem_append, List.mem_singleton] at hwritten
      refine ⟨?_, h.2.1, ih h.2.2 fun t ht => hwritten t (Or.inr ht)⟩
      exact (hwritten _ (Or.inl rfl)).angle
  | code s rest ih => exact absurd h.1 (by simp [FromTemplates])
  | void tag attributes rest ih =>
      simp only [writtenAll, written, List.mem_append] at hwritten
      refine ⟨?_, h.2.1, ih h.2.2 fun t ht => hwritten t (Or.inr ht)⟩
      exact h.1.2.readable fun s hs => hwritten s (Or.inl hs)
  | element tag attributes children rest ihChildren ihRest =>
      simp only [writtenAll, written, List.mem_append] at hwritten
      refine ⟨?_, h.2.1, ihRest h.2.2 fun t ht => hwritten t (Or.inr ht)⟩
      obtain ⟨_, htemplate, hchildren⟩ := h.1
      obtain ⟨hname, hattributes⟩ :=
        htemplate.readable fun s hs => hwritten s (Or.inl (Or.inl hs))
      exact ⟨hname, hattributes, ihChildren hchildren fun s hs => hwritten s (Or.inl (Or.inr hs))⟩

theorem harmless_escapeHtml (s : String) : Harmless (Text.escapeHtml s) := by
  constructor
  · intro hmem
    exact (Text.escapeHtml_closed hmem).1 rfl
  · intro hmem
    exact (Text.escapeHtml_closed hmem).2.2.1 rfl

theorem readable_quoted {name : String} (hname : isName name = true) (value : String) :
    (Attribute.quoted name value).Readable .escaped := by
  refine ⟨hname, ?_⟩
  intro v hv
  obtain rfl := Option.some.inj hv
  exact (harmless_escapeHtml value).quote

theorem IsTemplate.written_escaped {tag : String} {attributes : List Attribute}
    (h : IsTemplate .escaped tag attributes) {s : String}
    (hs : s ∈ attributes.filterMap (·.value? .escaped)) : Harmless s := by
  obtain ⟨a, ha, hvalue⟩ := List.mem_filterMap.mp hs
  cases a with
  | quoted name value =>
      obtain rfl := Option.some.inj hvalue
      exact harmless_escapeHtml value
  | bare name => exact absurd hvalue (by simp [Attribute.value?])
  | code name s => exact absurd (h.code _ ha rfl) (by decide)

/-- Where no scripts are allowed, every string is escaped. -/
theorem AllFromTemplates.written_escaped {nodes : List Html}
    (h : AllFromTemplates .escaped nodes) : ∀ s ∈ writtenAll .escaped nodes, Harmless s := by
  induction nodes using Html.induction with
  | nil => simp [writtenAll]
  | text t rest ih =>
      intro s hs
      simp only [writtenAll, written, List.mem_append, List.mem_singleton] at hs
      rcases hs with rfl | hs
      · exact harmless_escapeHtml t
      · exact ih h.2.2 s hs
  | code t rest ih => exact absurd h.1 (by simp [FromTemplates])
  | void tag attributes rest ih =>
      intro s hs
      rcases List.mem_append.mp hs with hs | hs
      · exact h.1.2.written_escaped hs
      · exact ih h.2.2 s hs
  | element tag attributes children rest ihChildren ihRest =>
      intro s hs
      simp only [writtenAll, written, List.mem_append] at hs
      obtain ⟨_, htemplate, hchildren⟩ := h.1
      rcases hs with (hs | hs) | hs
      · exact htemplate.written_escaped hs
      · exact ihChildren hchildren s hs
      · exact ihRest h.2.2 s hs

/-! ## Tokens -/

/-- Every element is closed behind what it holds, except for those without content. -/
inductive Balanced : List Token → Prop
  | nil : Balanced []
  | text (s : String) {rest : List Token} : Balanced rest → Balanced (.text s :: rest)
  | void (attributes : List (String × Option String)) {name : String} {rest : List Token} :
      name ∈ voidTags → Balanced rest → Balanced (.startTag name attributes :: rest)
  | element (attributes : List (String × Option String)) {name : String}
      {inner rest : List Token} : name ∉ voidTags → Balanced inner → Balanced rest →
      Balanced (.startTag name attributes :: (inner ++ .endTag name :: rest))

theorem Balanced.run (s : String) {rest : List Token} (h : Balanced rest) :
    Balanced (Token.run s ++ rest) := by
  unfold Token.run
  cases s.isEmpty with
  | true => exact h
  | false => exact .text s h

theorem AllFromTemplates.balanced {nodes : List Html} (h : AllFromTemplates mode nodes) :
    Balanced (tokensAll mode nodes) := by
  induction nodes using Html.induction with
  | nil => exact .nil
  | text s rest ih => exact (ih h.2.2).run _
  | code s rest ih => exact absurd h.1 (by simp [FromTemplates])
  | void tag attributes rest ih => exact .void _ h.1.1 (ih h.2.2)
  | element tag attributes children rest ihChildren ihRest =>
      have helement := Balanced.element (attributes.map (·.pair mode)) h.1.1
        (ihChildren h.1.2.2) (ihRest h.2.2)
      simpa [tokensAll, Html.tokens] using helement

/-- A tag as some template writes it. -/
def Token.FromTemplate (mode : EscapeMode) : Token → Prop
  | .text _ => True
  | .startTag name attributes => (name, attributes.map (·.1)) ∈ templates mode
  | .endTag name => ∃ names, (name, names) ∈ templates mode

theorem IsTemplate.startTag {tag : String} {attributes : List Attribute}
    (h : IsTemplate mode tag attributes) :
    Token.FromTemplate mode (.startTag tag (attributes.map (·.pair mode))) := by
  have hknown := h.known
  simpa [Token.FromTemplate, Attribute.pair, Function.comp_def] using hknown

theorem Token.run_fromTemplate {s : String} {token : Token} (htoken : token ∈ Token.run s) :
    token.FromTemplate mode := by
  unfold Token.run at htoken
  cases hs : s.isEmpty with
  | true => simp [hs] at htoken
  | false =>
      rw [hs, if_neg (by decide), List.mem_singleton] at htoken
      rw [htoken]
      trivial

theorem AllFromTemplates.tokens {nodes : List Html} (h : AllFromTemplates mode nodes) :
    ∀ token ∈ tokensAll mode nodes, token.FromTemplate mode := by
  induction nodes using Html.induction with
  | nil => simp [tokensAll]
  | text s rest ih =>
      intro token htoken
      rcases List.mem_append.mp htoken with hrun | hrest
      · exact Token.run_fromTemplate hrun
      · exact ih h.2.2 token hrest
  | code s rest ih => exact absurd h.1 (by simp [FromTemplates])
  | void tag attributes rest ih =>
      intro token htoken
      rcases List.mem_cons.mp htoken with rfl | hrest
      · exact h.1.2.startTag
      · exact ih h.2.2 token hrest
  | element tag attributes children rest ihChildren ihRest =>
      intro token htoken
      obtain ⟨_, htemplate, hchildren⟩ := h.1
      simp only [tokensAll, Html.tokens, List.mem_append, List.mem_cons, List.not_mem_nil,
        or_false] at htoken
      rcases htoken with (rfl | hinner | rfl) | hrest
      · exact htemplate.startTag
      · exact ihChildren hchildren token hinner
      · exact ⟨_, htemplate.known⟩
      · exact ihRest h.2.2 token hrest

theorem allFromTemplates_of_tags {nodes : List Html}
    (h : ∀ node ∈ nodes, FromTemplates mode node ∧ node.isTag = true) :
    AllFromTemplates mode nodes := by
  induction nodes with
  | nil => trivial
  | cons node rest ih =>
      obtain ⟨hnode, htag⟩ := h node List.mem_cons_self
      exact ⟨hnode, Or.inl htag, ih fun n hn => h n (List.mem_cons_of_mem node hn)⟩

theorem allFromTemplates_map {α : Type} (items : List α) {item : α → Html}
    (h : ∀ x, FromTemplates mode (item x) ∧ (item x).isTag = true) :
    AllFromTemplates mode (items.map item) := by
  apply allFromTemplates_of_tags
  intro node hnode
  obtain ⟨x, _, rfl⟩ := List.mem_map.mp hnode
  exact h x

theorem allFromTemplates_onLines {nodes : List Html}
    (h : ∀ node ∈ nodes, FromTemplates mode node ∧ node.isTag = true) :
    AllFromTemplates mode (Html.onLines nodes) := by
  unfold Html.onLines
  induction nodes with
  | nil => trivial
  | cons node rest ih =>
      obtain ⟨hnode, htag⟩ := h node List.mem_cons_self
      have hrest := ih fun n hn => h n (List.mem_cons_of_mem node hn)
      cases rest with
      | nil => exact ⟨hnode, Or.inl htag, trivial⟩
      | cons next rest =>
          obtain ⟨_, hnext⟩ := h next (by simp)
          have hstops : StopsText ((next :: rest).intersperse Html.newline) := by
            cases rest <;> simp [StopsText, hnext]
          exact ⟨hnode, Or.inl htag, trivial, Or.inr hstops, hrest⟩

end Html

/-! ## The rules of the kinds -/

theorem Props.headingLevel_mem (p : Props) : p.headingLevel ∈ [1, 2, 3, 4, 5, 6] := by
  have hbounds : 1 ≤ p.headingLevel ∧ p.headingLevel ≤ 6 := by
    unfold Props.headingLevel
    split
    · unfold Decimal.clampRound
      split <;> omega
    · decide
  simp only [List.mem_cons, List.not_mem_nil, or_false]
  omega

theorem headingTag_template (mode : EscapeMode) : ∀ level ∈ [1, 2, 3, 4, 5, 6],
    headingTag level ∉ voidTags ∧ (headingTag level, ["id", "class"]) ∈ templates mode := by
  cases mode <;> decide

section Rules

variable (mode : EscapeMode)

theorem Widget.anchor_isTemplate (w : Widget) {tag : String}
    (htag : (tag, ["id", "class"]) ∈ templates mode) : IsTemplate mode tag w.anchor := by
  constructor
  · simpa [Widget.anchor, Attribute.name] using htag
  · simp [Widget.anchor, isCode]

theorem links_fromTemplates (items : List Json.Value) :
    AllFromTemplates mode (items.map linkItem) := by
  apply allFromTemplates_map
  intro item
  refine ⟨?_, rfl⟩
  simp [linkItem, isTemplate_iff, Attribute.name, isCode, templates, voidTags]

theorem gallery_fromTemplates (images : List Json.Value) :
    AllFromTemplates mode (images.map galleryImage) := by
  apply allFromTemplates_map
  intro image
  unfold galleryImage
  split
  · refine ⟨?_, rfl⟩
    simp [isTemplate_iff, Attribute.name, isCode, templates, voidTags]
  · refine ⟨?_, rfl⟩
    simp [isTemplate_iff, Attribute.name, isCode, templates, voidTags]

theorem options_fromTemplates (options : List Json.Value) :
    AllFromTemplates mode (options.map optionItem) := by
  apply allFromTemplates_map
  intro option
  unfold optionItem
  split
  · refine ⟨?_, rfl⟩
    simp [isTemplate_iff, Attribute.name, isCode, templates, voidTags]
  · refine ⟨?_, rfl⟩
    simp [isTemplate_iff, Attribute.name, isCode, templates, voidTags]

theorem stats_fromTemplates (stats : List Json.Value) :
    AllFromTemplates mode (stats.map statItem) := by
  apply allFromTemplates_map
  intro stat
  refine ⟨?_, rfl⟩
  simp [statItem, isTemplate_iff, Attribute.name, isCode, templates, voidTags, Html.isTag]

theorem features_fromTemplates (features : List Json.Value) :
    AllFromTemplates mode (features.map fun feature => .element "li" [] [.text feature.text]) := by
  apply allFromTemplates_map
  intro feature
  refine ⟨?_, rfl⟩
  simp [isTemplate_iff, templates, voidTags]

/-- A field has an anchor or none. -/
theorem Widget.control?_fromTemplates {w : Widget} {front : List Attribute} {node : Html}
    (hfront : front = [] ∨ front = w.anchor) (hcontrol : w.control? front = some node) :
    FromTemplates mode node := by
  have hoptions := options_fromTemplates mode (w.props.list "options")
  unfold Widget.control? at hcontrol
  cases hk : w.kind <;> simp only [hk, Option.some.injEq, reduceCtorEq] at hcontrol
  all_goals
    subst hcontrol
    rcases hfront with rfl | rfl
    all_goals
      cases hrequired : w.props.flag "required" <;>
        simp [hrequired, hoptions, isTemplate_iff, Attribute.name, isCode, templates, voidTags,
          Props.fieldName, Props.placeholder, Props.requiredMark, Widget.anchor]

theorem Widget.buttonMarkup_fromTemplates (w : Widget) :
    FromTemplates mode (w.buttonMarkup mode) := by
  cases mode <;>
    simp [Widget.buttonMarkup, EscapeMode.allowsScript, isTemplate_iff, Attribute.name, isCode,
      templates, voidTags, Widget.anchor]

theorem Widget.formMarkup_fromTemplates (w : Widget) (fields : List Widget) :
    FromTemplates mode (w.formMarkup fields) := by
  have hchildren : AllFromTemplates mode (fields.filterMap (·.control? []) ++
      [.element "button" [.quoted "type" "submit"]
        [.text (w.props.text "submitText" "Submit")]]) := by
    apply allFromTemplates_of_tags
    intro node hnode
    rcases List.mem_append.mp hnode with hfield | hbutton
    · obtain ⟨field, _, hcontrol⟩ := List.mem_filterMap.mp hfield
      exact ⟨Widget.control?_fromTemplates mode (Or.inl rfl) hcontrol,
        Widget.control?_isTag hcontrol⟩
    · rw [List.mem_singleton] at hbutton
      subst hbutton
      simp [isTemplate_iff, Attribute.name, isCode, templates, voidTags, Html.isTag]
  refine ⟨by decide, ?_, hchildren⟩
  simp [isTemplate_iff, Attribute.name, isCode, templates, Widget.anchor]

theorem Widget.markup_fromTemplates (w : Widget) : FromTemplates mode (w.markup mode) := by
  have hlinks := links_fromTemplates mode (w.props.list "items")
  have himages := gallery_fromTemplates mode (w.props.list "images")
  have hstats := stats_fromTemplates mode (w.props.list "stats")
  have hfeatures := features_fromTemplates mode (w.props.list "features")
  unfold Widget.markup
  cases hk : w.kind
  case button => exact w.buttonMarkup_fromTemplates mode
  case form => exact w.formMarkup_fromTemplates mode []
  case heading =>
      obtain ⟨hvoid, htemplate⟩ := headingTag_template mode _ w.props.headingLevel_mem
      exact ⟨hvoid, w.anchor_isTemplate mode htemplate, trivial, Or.inr stopsText_nil, trivial⟩
  case input | textarea | select =>
      obtain ⟨node, hnode⟩ := Widget.control?_isSome (w := w) (by rw [hk]; rfl) w.anchor
      have hcontrol := Widget.control?_fromTemplates mode (Or.inr rfl) hnode
      simpa [hnode] using hcontrol
  case video =>
      cases hcontrols : w.props.flagOr "controls" true <;>
        simp [hcontrols, isTemplate_iff, Attribute.name, isCode, templates, voidTags,
          Widget.anchor]
  all_goals
      simp [hlinks, himages, hstats, hfeatures, isTemplate_iff, Attribute.name, isCode, templates,
        voidTags, Widget.anchor, Kind.wrapperTag, Html.isTag]

theorem Component.markup_fromTemplates_mk (w : Widget) {children : Forest}
    (hchildren : AllFromTemplates mode (Forest.markup mode children)) :
    FromTemplates mode (Component.markup mode ⟨w, children⟩) := by
  rcases w.kind.cases_by_children with hwrapper | hform | hleaf
  · rw [Component.markup_wrapper mode hwrapper]
    have htag : w.kind.wrapperTag ∉ voidTags ∧
        (w.kind.wrapperTag, ["id", "class"]) ∈ templates mode := by
      cases mode <;> cases hk : w.kind <;> simp [hk, Kind.isWrapper] at hwrapper <;> decide
    exact ⟨htag.1, w.anchor_isTemplate mode htag.2, hchildren⟩
  · rw [Component.markup_form mode hform]
    exact w.formMarkup_fromTemplates mode _
  · rw [Component.markup_leaf mode hleaf]
    exact w.markup_fromTemplates mode

theorem markupAll_fromTemplates (forest : Forest) :
    ∀ node ∈ markupAll mode forest, FromTemplates mode node ∧ node.isTag = true := by
  induction forest using Forest.induction with
  | nil => simp [markupAll]
  | cons w children rest ihChildren ihRest =>
      intro node hnode
      rw [markupAll, List.mem_cons] at hnode
      rcases hnode with rfl | hrest
      · refine ⟨Component.markup_fromTemplates_mk mode w ?_, Component.markup_isTag mode _⟩
        exact allFromTemplates_onLines ihChildren
      · exact ihRest node hrest

theorem Forest.markup_fromTemplates (forest : Forest) :
    AllFromTemplates mode (forest.markup mode) :=
  allFromTemplates_onLines (markupAll_fromTemplates mode forest)

end Rules

/-- The escaped markup of every forest reads as the tokens of its tree. -/
theorem Forest.tokenize_render_escaped (forest : Forest) :
    tokenize (forest.render .escaped) = some (tokensAll .escaped (forest.markup .escaped)) := by
  have htemplates := forest.markup_fromTemplates .escaped
  exact Html.tokenize_writeAll (htemplates.readable htemplates.written_escaped)

end StaticSite
