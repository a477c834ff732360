import Mathlib.Data.List.Forall2
import StaticSite.Proofs.Html.Rendering

/-!
# Fields of forms

A field is written with an anchor where it stands alone, and without one inside a form. Both are the
same rule with other attributes in front, so a form shows each of its fields as it would stand alone
without the anchor, and nothing of its other children or of what is below them.
-/

namespace StaticSite

/-- The id and the class of a field, as they are written behind the tag. -/
def Widget.fieldAnchor (mode : EscapeMode) (w : Widget) : String :=
  " id=\"" ++ mode.html w.id ++ "\"" ++ " class=\"" ++ w.kind.tag ++ "-component\""

/-- What a form shows of a child: a field without the anchor that it has alone, and of other
children nothing. -/
inductive FieldText (mode : EscapeMode) (c : Component) : String → Prop
  | hidden (hkind : c.widget.kind ∉ [.input, .textarea, .select]) : FieldText mode c ""
  | field (behind : String) (hkind : c.widget.kind ∈ [.input, .textarea, .select])
      (halone : Forest.render mode [c] =
        "<" ++ c.widget.kind.tag ++ c.widget.fieldAnchor mode ++ behind) :
      FieldText mode c ("<" ++ c.widget.kind.tag ++ behind)

theorem Kind.mem_fields_iff {kind : Kind} :
    kind ∈ [.input, .textarea, .select] ↔ kind.isFormControl = true := by
  cases kind <;> simp [Kind.isFormControl]

theorem FieldText.unique {mode : EscapeMode} {c : Component} {s t : String}
    (hs : FieldText mode c s) (ht : FieldText mode c t) : s = t := by
  cases hs with
  | hidden hkind =>
      cases ht with
      | hidden => rfl
      | field _ hother => exact absurd hother hkind
  | field _ hkind halone =>
      cases ht with
      | hidden hother => exact absurd hkind hother
      | field _ _ hother =>
          rw [halone, String.append_right_inj] at hother
          rw [hother]

/-! ## The rule of a field -/

theorem writeAttributes_append (mode : EscapeMode) (a b : List Attribute) :
    writeAttributes mode (a ++ b) = writeAttributes mode a ++ writeAttributes mode b := by
  simp [writeAttributes]

theorem startTag_append (mode : EscapeMode) (tag : String) (a b : List Attribute) :
    startTag mode tag (a ++ b) =
      "<" ++ tag ++ writeAttributes mode a ++ (writeAttributes mode b ++ ">") := by
  simp only [startTag, writeAttributes_append, String.append_assoc]

namespace Html

/-- An element with more attributes in front of its own. -/
def fronted (front : List Attribute) : Html → Html
  | .void tag attributes => .void tag (front ++ attributes)
  | .element tag attributes children => .element tag (front ++ attributes) children
  | node => node

def tag : Html → String
  | .void tag _ => tag
  | .element tag _ _ => tag
  | _ => ""

/-- The attributes in front are written right behind the tag, and nothing else depends on them. -/
theorem write_fronted (mode : EscapeMode) {node : Html} (htag : node.isTag = true) :
    ∃ behind, ∀ front, (node.fronted front).write mode =
      "<" ++ node.tag ++ writeAttributes mode front ++ behind := by
  cases node with
  | text s => cases htag
  | code s => cases htag
  | void tag attributes =>
      refine ⟨writeAttributes mode attributes ++ ">", fun front => ?_⟩
      rw [fronted, Html.write, startTag_append, Html.tag]
  | element tag attributes children =>
      refine ⟨writeAttributes mode attributes ++ ">" ++ writeAll mode children ++ "</" ++ tag ++
        ">", fun front => ?_⟩
      rw [fronted, Html.write, startTag_append, Html.tag]
      simp only [String.append_assoc]

end Html

theorem Widget.control?_eq_fronted (w : Widget) (front : List Attribute) :
    w.control? front = (w.control? []).map (Html.fronted front) := by
  unfold Widget.control?
  cases w.kind <;> rfl

theorem Widget.control?_tag {w : Widget} {front : List Attribute} {node : Html}
    (hcontrol : w.control? front = some node) : node.tag = w.kind.tag := by
  unfold Widget.control? at hcontrol
  cases hk : w.kind <;> simp only [hk, Option.some.injEq, reduceCtorEq] at hcontrol <;>
    subst hcontrol <;> rfl

theorem Widget.writeAttributes_anchor (mode : EscapeMode) {w : Widget}
    (hkind : w.kind.isFormControl = true) :
    writeAttributes mode w.anchor = w.fieldAnchor mode := by
  have hclass : mode.html w.kind.className = w.kind.tag ++ "-component" := by
    cases hk : w.kind <;> simp only [hk, Kind.isFormControl, Bool.false_eq_true] at hkind <;>
      cases mode <;> decide
  simp only [writeAttributes, Widget.anchor, List.map_cons, List.map_nil, String.join_cons,
    String.join_nil, Attribute.write, hclass, Widget.fieldAnchor, String.append_empty,
    String.append_assoc]
  rfl

theorem Component.markup_field (mode : EscapeMode) {w : Widget}
    (hkind : w.kind.isFormControl = true) (children : Forest) :
    some (Component.markup mode ⟨w, children⟩) = w.control? w.anchor := by
  have hleaf : w.kind.acceptsChildren = false := by
    cases hk : w.kind <;> simp_all [Kind.isFormControl, Kind.acceptsChildren]
  obtain ⟨node, hnode⟩ := Widget.control?_isSome hkind w.anchor
  rw [Component.markup_leaf mode hleaf, hnode, Widget.markup]
  cases hk : w.kind <;> simp_all [Kind.isFormControl]

/-! ## Fields in a form -/

theorem Component.fieldText (mode : EscapeMode) (c : Component) :
    ∃ text, FieldText mode c text ∧ writeAll mode (c.widget.control? []).toList = text := by
  obtain ⟨w, children⟩ := c
  cases hkind : w.kind.isFormControl with
  | false =>
      have hhidden : w.kind ∉ [.input, .textarea, .select] := by
        rw [Kind.mem_fields_iff, hkind]
        decide
      refine ⟨"", .hidden hhidden, ?_⟩
      rw [Widget.control?_eq_none hkind]
      rfl
  | true =>
      obtain ⟨node, hnode⟩ := Widget.control?_isSome hkind []
      obtain ⟨behind, hwrite⟩ := Html.write_fronted mode (Widget.control?_isTag hnode)
      rw [Widget.control?_tag hnode] at hwrite
      have halone : Forest.render mode [⟨w, children⟩] =
          "<" ++ w.kind.tag ++ w.fieldAnchor mode ++ behind := by
        have hfield := Component.markup_field mode hkind children
        rw [Widget.control?_eq_fronted, hnode, Option.map_some, Option.some.injEq] at hfield
        rw [Forest.render_singleton, hfield, hwrite, Widget.writeAttributes_anchor mode hkind]
      have hinside : node.write mode = "<" ++ w.kind.tag ++ behind := by
        have hbare : node.fronted [] = node := by cases node <;> rfl
        have hempty : writeAttributes mode [] = "" := rfl
        rw [← hbare, hwrite, hempty, String.append_empty]
      refine ⟨_, .field _ (Kind.mem_fields_iff.mpr hkind) halone, ?_⟩
      rw [hnode, Option.toList_some, writeAll, writeAll, String.append_empty, hinside]

theorem Forest.fieldTexts (mode : EscapeMode) (children : Forest) :
    ∃ texts, List.Forall₂ (FieldText mode) children texts ∧
      writeAll mode ((children.map (·.widget)).filterMap (·.control? [])) = String.join texts := by
  simp only [List.filterMap_eq_flatMap_toList]
  induction children with
  | nil => exact ⟨[], .nil, by simp [writeAll]⟩
  | cons c rest ih =>
      obtain ⟨texts, htexts, hrest⟩ := ih
      obtain ⟨text, htext, hfirst⟩ := c.fieldText mode
      refine ⟨text :: texts, .cons htext htexts, ?_⟩
      rw [List.map_cons, List.flatMap_cons, writeAll_append, hrest, hfirst, String.join_cons]

theorem FieldText.unique_texts {mode : EscapeMode} {children : Forest} {texts others : List String}
    (h : List.Forall₂ (FieldText mode) children texts)
    (hothers : List.Forall₂ (FieldText mode) children others) : texts = others := by
  induction h generalizing others with
  | nil =>
      cases hothers
      rfl
  | cons htext _ ih =>
      cases hothers with
      | cons hother hrest => rw [htext.unique hother, ih hrest]

theorem Widget.write_formMarkup (mode : EscapeMode) {w : Widget} (hkind : w.kind = .form)
    (fields : List Widget) : (w.formMarkup fields).write mode =
      "<form id=\"" ++ mode.html w.id ++ "\" class=\"form-component\" action=\"" ++
        mode.html (w.props.text "action" "#") ++ "\" method=\"" ++
        mode.html (w.props.text "method" "POST") ++ "\">" ++
        writeAll mode (fields.filterMap (·.control? [])) ++ "<button type=\"submit\">" ++
        mode.html (w.props.text "submitText" "Submit") ++ "</button></form>" := by
  have hclass : mode.html w.kind.className = "form-component" := by
    rw [hkind]
    cases mode <;> decide
  have hsubmit : mode.html "submit" = "submit" := by
    cases mode <;> decide
  simp only [Widget.formMarkup, Html.write, startTag, writeAttributes, Widget.anchor,
    List.cons_append, List.nil_append, List.map_cons, List.map_nil, String.join_cons,
    String.join_nil, Attribute.write, hclass, hsubmit, writeAll_append, writeAll,
    String.append_empty, String.append_assoc]
  rfl

/-- A form is written as its opening tag, the texts of its children in order, and the button that
submits it. What is below the children makes no difference. -/
theorem form_shows_fields (mode : EscapeMode) {w : Widget} (hkind : w.kind = .form)
    (children : Forest) :
    (∀ written, Forest.render mode [⟨w, children⟩] = written ↔
      ∃ texts, List.Forall₂ (FieldText mode) children texts ∧
        written = "<form id=\"" ++ mode.html w.id ++ "\" class=\"form-component\" action=\"" ++
          mode.html (w.props.text "action" "#") ++ "\" method=\"" ++
          mode.html (w.props.text "method" "POST") ++ "\">" ++ String.join texts ++
          "<button type=\"submit\">" ++ mode.html (w.props.text "submitText" "Submit") ++
          "</button></form>") ∧
      Forest.render mode [⟨w, children⟩] =
        Forest.render mode [⟨w, children.map fun c => ⟨c.widget, []⟩⟩] := by
  simp only [Forest.render_singleton, Component.markup_form mode hkind,
    Widget.write_formMarkup mode hkind]
  obtain ⟨texts, htexts, hfields⟩ := Forest.fieldTexts mode children
  refine ⟨fun written => ⟨?_, ?_⟩, ?_⟩
  · rintro rfl
    exact ⟨texts, htexts, by rw [hfields]⟩
  · rintro ⟨others, hothers, rfl⟩
    rw [hfields, FieldText.unique_texts htexts hothers]
  · rw [List.map_map]
    rfl

def contactForm : Widget :=
  { id := "contact", kind := .form, props := [("submitText", .string "Send")] }

/-- A required field, a wrapped one and a choice. -/
def contactChildren : Forest :=
  [⟨{ id := "mail", kind := .input, props := [("required", .bool true)] }, []⟩,
    ⟨{ id := "more", kind := .container }, [⟨{ id := "note", kind := .textarea }, []⟩]⟩,
    ⟨{ id := "topic", kind := .select, props := [("options", .array [.string "Q&A"])] },
      [⟨{ id := "mark", kind := .image }, []⟩]⟩]

theorem contactForm_fields : contactForm.kind = .form ∧
    List.Forall₂ (FieldText .escaped) contactChildren
      ["<input type=\"text\" name=\"\" placeholder=\"\" required>", "",
        "<select name=\"\"><option value=\"Q&amp;A\">Q&amp;A</option></select>"] ∧
    Forest.render .escaped [⟨contactForm, contactChildren⟩] =
      "<form id=\"contact\" class=\"form-component\" action=\"#\" method=\"POST\">" ++
        "<input type=\"text\" name=\"\" placeholder=\"\" required>" ++
        "<select name=\"\"><option value=\"Q&amp;A\">Q&amp;A</option></select>" ++
        "<button type=\"submit\">Send</button></form>" := by
  have htexts : List.Forall₂ (FieldText .escaped) contactChildren
      ["<input type=\"text\" name=\"\" placeholder=\"\" required>", "",
        "<select name=\"\"><option value=\"Q&amp;A\">Q&amp;A</option></select>"] := by
    refine .cons ?_ (.cons ?_ (.cons ?_ .nil))
    · exact .field " type=\"text\" name=\"\" placeholder=\"\" required>"
        (by decide) (by decide +kernel)
    · exact .hidden (by decide)
    · exact .field " name=\"\"><option value=\"Q&amp;A\">Q&amp;A</option></select>"
        (by decide) (by decide +kernel)
  refine ⟨rfl, htexts, ?_⟩
  rw [((form_shows_fields .escaped rfl contactChildren).1 _).mpr ⟨_, htexts, rfl⟩]
  decide +kernel

end StaticSite
