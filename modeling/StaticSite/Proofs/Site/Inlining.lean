import StaticSite.Html.Document

/-!
# Style sheets and scripts inside documents

A style sheet or a script inside a document ends where a tag begins. What is generated in escaped
mode has no `<` at all, so only the raw texts of the page could end it.
-/

namespace StaticSite

namespace Text

/-- No tag begins in this text, nor a block of PHP. -/
def AngleFree (s : String) : Prop :=
  '<' ∉ s.toList

instance (s : String) : Decidable (AngleFree s) :=
  inferInstanceAs (Decidable (¬_))

@[simp] theorem angleFree_empty : AngleFree "" := by
  decide

/-- A fixed text is the text of its characters. Looking for a `<` among these is quicker than
having the text decoded. -/
theorem angleFree_ofList {cs : List Char} (h : '<' ∉ cs) : AngleFree (String.ofList cs) := by
  rwa [AngleFree, String.toList_ofList]

@[simp] theorem angleFree_append {a b : String} :
    AngleFree (a ++ b) ↔ AngleFree a ∧ AngleFree b := by
  simp [AngleFree, not_or]

theorem angleFree_join {texts : List String} (h : ∀ s ∈ texts, AngleFree s) :
    AngleFree (String.join texts) := by
  induction texts with
  | nil => decide
  | cons s rest ih =>
      rw [String.join_cons, angleFree_append]
      exact ⟨h s List.mem_cons_self, ih fun t ht => h t (List.mem_cons_of_mem s ht)⟩

theorem angleFree_intercalate {separator : String} (hseparator : AngleFree separator)
    {texts : List String} (h : ∀ s ∈ texts, AngleFree s) :
    AngleFree (String.intercalate separator texts) := by
  induction texts with
  | nil => simp
  | cons s rest ih =>
      have hs := h s List.mem_cons_self
      have hrest := ih fun t ht => h t (List.mem_cons_of_mem s ht)
      cases rest with
      | nil => simpa using hs
      | cons t others =>
          rw [String.intercalate_cons_cons]
          simp [hs, hseparator, hrest]

theorem angleFree_escapeWith {escapeChar : Char → List Char}
    (hescape : ∀ c, '<' ∉ escapeChar c) (s : String) : AngleFree (escapeWith escapeChar s) := by
  simp [AngleFree, escapeWith, hescape]

theorem angleFree_escapeCss (s : String) : AngleFree (escapeCss s) := by
  rw [escapeCss_eq_escapeWith]
  apply angleFree_escapeWith
  intro c
  unfold cssChar
  split
  · decide
  · next hc => simpa using Ne.symm hc

theorem angleFree_escapeScript (s : String) : AngleFree (escapeScript s) := by
  intro hangle
  exact (escapeScript_closed hangle).1 rfl

end Text

open Text

/-! ## Style sheets -/

namespace Css

/-- What is escaped in a rule. -/
def Rule.texts (r : Rule) : List String :=
  r.selector :: r.declarations.flatMap fun d => [d.property, d.value]

def Block.texts : Block → List String
  | .rule r => r.texts
  | .media _ rules => rules.flatMap Rule.texts

/-- The conditions of media blocks are written as they are. -/
def Block.conditions : Block → List String
  | .rule _ => []
  | .media condition _ => [condition]

theorem angleFree_margin (depth : Nat) : AngleFree (margin depth) := by
  simp [AngleFree, margin, List.mem_replicate]

variable {mode : EscapeMode}

theorem Rule.angleFree_write {r : Rule} (h : ∀ s ∈ r.texts, AngleFree (mode.css s)) (depth : Nat) :
    AngleFree (r.write mode depth) := by
  have hdeclarations : AngleFree
      (String.join (r.declarations.map (Declaration.write mode (depth + 1)))) := by
    apply angleFree_join
    intro s hs
    obtain ⟨d, hd, rfl⟩ := List.mem_map.mp hs
    have htexts : ∀ t ∈ [d.property, d.value], AngleFree (mode.css t) := by
      intro t ht
      exact h t (List.mem_cons_of_mem _ (List.mem_flatMap.mpr ⟨d, hd, ht⟩))
    have hproperty := htexts d.property (by simp)
    have hvalue := htexts d.value (by simp)
    simp only [Declaration.write, angleFree_append]
    exact ⟨⟨⟨⟨angleFree_margin _, hproperty⟩, by decide⟩, hvalue⟩, by decide⟩
  have hselector := h r.selector List.mem_cons_self
  simp only [Rule.write, angleFree_append]
  exact ⟨⟨⟨⟨⟨angleFree_margin depth, hselector⟩, by decide⟩, hdeclarations⟩,
    angleFree_margin depth⟩, by decide⟩

theorem Block.angleFree_write {b : Block} (h : ∀ s ∈ b.texts, AngleFree (mode.css s))
    (hconditions : ∀ s ∈ b.conditions, AngleFree s) : AngleFree (b.write mode) := by
  cases b with
  | rule r => exact Rule.angleFree_write h 0
  | media condition rules =>
      have hrules : AngleFree (String.intercalate "\n" (rules.map (Rule.write mode 1))) := by
        apply angleFree_intercalate (by decide)
        intro s hs
        obtain ⟨r, hr, rfl⟩ := List.mem_map.mp hs
        exact Rule.angleFree_write (fun t ht => h t (List.mem_flatMap.mpr ⟨r, hr, ht⟩)) 1
      have hcondition := hconditions condition (by simp [conditions])
      simp only [Block.write, angleFree_append]
      exact ⟨⟨⟨⟨by decide, hcondition⟩, by decide⟩, hrules⟩, by decide⟩

end Css

theorem angleFree_prelude : AngleFree prelude := by
  have hblocks : ∀ b ∈ preludeBlocks,
      (∀ s ∈ b.texts, AngleFree s) ∧ ∀ s ∈ b.conditions, AngleFree s := by
    simp only [preludeBlocks, mobileCondition, mobileBreakpoint, List.forall_mem_cons,
      Css.Block.texts, Css.Rule.texts, Css.Block.conditions, List.flatMap_cons, List.flatMap_nil,
      List.forall_mem_append, angleFree_append]
    repeat' apply And.intro
    all_goals first | exact angleFree_ofList (by decide) | exact List.forall_mem_nil _
  apply angleFree_intercalate (by decide)
  intro s hs
  obtain ⟨b, hb, rfl⟩ := List.mem_map.mp hs
  exact Css.Block.angleFree_write (hblocks b hb).1 (hblocks b hb).2

theorem Widget.angleFree_rules (w : Widget) : AngleFree (w.rules .escaped) := by
  apply angleFree_join
  intro s hs
  obtain ⟨b, hb, rfl⟩ := List.mem_map.mp hs
  have hconditions : ∀ condition ∈ b.conditions, condition = mobileCondition := by
    unfold Widget.blocks at hb
    rcases List.mem_cons.mp hb with rfl | hmedia
    · simp [Css.Block.conditions]
    · split at hmedia
      · obtain rfl := List.mem_singleton.mp hmedia
        simp [Css.Block.conditions]
      · cases hmedia
  have hmobile : AngleFree mobileCondition := by decide
  apply Css.Block.angleFree_write
  · exact fun t _ => angleFree_escapeCss t
  · exact fun t ht => hconditions t ht ▸ hmobile

/-- No style sheet in escaped mode has a `<`, whatever the ids, styles and values are. -/
theorem Forest.angleFree_stylesheet (forest : Forest) :
    AngleFree (forest.stylesheet .escaped) := by
  rw [Forest.stylesheet, angleFree_append]
  refine ⟨angleFree_prelude, angleFree_join ?_⟩
  intro s hs
  obtain ⟨c, _, rfl⟩ := List.mem_map.mp hs
  exact angleFree_append.mpr ⟨by decide, c.widget.angleFree_rules⟩

/-! ## Scripts -/

namespace Script

mutual

def Code.texts : Code → List String
  | .line text => [text]
  | .block head body tail => head :: tail :: textsAll body
  | .branch condition yes no => condition :: (textsAll yes ++ textsAll no)
  | .blank => []

def textsAll : List Code → List String
  | [] => []
  | code :: rest => code.texts ++ textsAll rest

end

theorem angleFree_indent {margin : String} (h : AngleFree margin) : AngleFree (margin ++ indent) :=
  angleFree_append.mpr ⟨h, by decide⟩

mutual

theorem Code.angleFree_write : (code : Code) → (∀ s ∈ code.texts, AngleFree s) → ∀ margin,
    AngleFree margin → AngleFree (code.write margin)
  | .line text, htexts, margin, hmargin => by
      have htext := htexts text (by simp [Code.texts])
      simp only [Code.write, angleFree_append]
      exact ⟨⟨hmargin, htext⟩, by decide⟩
  | .block head body tail, htexts, margin, hmargin => by
      rw [Code.texts, List.forall_mem_cons, List.forall_mem_cons] at htexts
      obtain ⟨hhead, htail, hbody⟩ := htexts
      have hlines := angleFree_writeLines body hbody _ (angleFree_indent hmargin)
      simp only [Code.write, angleFree_append]
      exact ⟨⟨⟨⟨⟨⟨⟨hmargin, hhead⟩, by decide⟩, hlines⟩, hmargin⟩, by decide⟩, htail⟩, by decide⟩
  | .branch condition yes no, htexts, margin, hmargin => by
      rw [Code.texts, List.forall_mem_cons, List.forall_mem_append] at htexts
      obtain ⟨hcondition, hyes, hno⟩ := htexts
      have hlines := angleFree_writeLines yes hyes _ (angleFree_indent hmargin)
      have hothers := angleFree_writeLines no hno _ (angleFree_indent hmargin)
      simp only [Code.write, angleFree_append]
      exact ⟨⟨⟨⟨⟨⟨⟨⟨⟨hmargin, by decide⟩, hcondition⟩, by decide⟩, hlines⟩, hmargin⟩, by decide⟩,
        hothers⟩, hmargin⟩, by decide⟩
  | .blank, _, _, _ => by
      rw [Code.write]
      decide

theorem angleFree_writeLines : (lines : List Code) → (∀ s ∈ textsAll lines, AngleFree s) →
    ∀ margin, AngleFree margin → AngleFree (writeLines margin lines)
  | [], _, _, _ => by
      rw [writeLines]
      decide
  | code :: rest, htexts, margin, hmargin => by
      rw [textsAll, List.forall_mem_append] at htexts
      rw [writeLines, angleFree_append]
      exact ⟨code.angleFree_write htexts.1 margin hmargin,
        angleFree_writeLines rest htexts.2 margin hmargin⟩

end

end Script

theorem angleFree_runtime : AngleFree runtime := by
  have htexts : ∀ s ∈ Script.textsAll runtimeCode, AngleFree s := by
    simp only [runtimeCode, Script.textsAll, Script.Code.texts, List.forall_mem_append,
      List.forall_mem_cons]
    repeat' apply And.intro
    all_goals first | exact angleFree_ofList (by decide) | exact List.forall_mem_nil _
  exact Script.angleFree_writeLines runtimeCode htexts "" (by decide)

theorem Wiring.angleFree_submit (id : String) : AngleFree ((submit id).write .escaped) := by
  have hid : AngleFree (EscapeMode.escaped.script id) := angleFree_escapeScript id
  have hhead : AngleFree (listenerHead .escaped id "submit" "e") := by
    unfold listenerHead
    iterate 6 rw [angleFree_append]
    exact ⟨⟨⟨⟨⟨⟨by decide, hid⟩, by decide⟩, by decide⟩, by decide⟩, by decide⟩, by decide⟩
  have hlines : ∀ s ∈ Script.textsAll [.line "e.preventDefault();",
      .line "const formData = new FormData(this);",
      .line "console.log('Form submitted:', Object.fromEntries(formData));"], AngleFree s := by
    decide
  rw [Wiring.write, angleFree_append]
  refine ⟨by decide, Script.Code.angleFree_write _ ?_ "" (by decide)⟩
  rw [Wiring.code, Script.Code.texts, List.forall_mem_cons, List.forall_mem_cons]
  exact ⟨hhead, by decide, hlines⟩

/-- No script in escaped mode has a `<`, for click handlers are left out. -/
theorem Forest.angleFree_script (forest : Forest) : AngleFree (forest.script .escaped) := by
  rw [Forest.script, angleFree_append]
  refine ⟨angleFree_runtime, angleFree_join ?_⟩
  intro s hs
  obtain ⟨wiring, hwiring, rfl⟩ := List.mem_map.mp hs
  obtain ⟨c, _, rfl | ⟨hallows, _⟩⟩ := Forest.wirings_cases hwiring
  · exact Wiring.angleFree_submit c.widget.id
  · exact absurd hallows (by decide)

end StaticSite
