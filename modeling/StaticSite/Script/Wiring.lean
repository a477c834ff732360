import StaticSite.Component.Walk
import StaticSite.Script.Code
import StaticSite.Text.Escape

/-!
# Scripts

A page begins with the same script everywhere, which checks the required fields of its
forms. Then each form, and each button with a click handler, is wired to its element.
-/

namespace StaticSite

open Script

/-- The script that every page begins with. -/
def runtimeCode : List Code :=
  [.line "// SiteForge generated JavaScript",
    .block "document.addEventListener('DOMContentLoaded', function()"
      [.line "initializeComponents();", .line "setupResponsive();",
        .line "setupFormValidation();"] ");",
    .blank,
    .block "function initializeComponents()" [] "",
    .blank,
    .block "function setupResponsive()"
      [.block "window.addEventListener('resize', function()" [] ");"] "",
    .blank,
    .block "function setupFormValidation()"
      [.line "const forms = document.querySelectorAll('form');",
        .block "forms.forEach(function(form)"
          [.block "form.addEventListener('submit', function(e)"
            [.block "if (!validateForm(this))" [.line "e.preventDefault();"] ""] ");"] ");"] "",
    .blank,
    .block "function validateForm(form)"
      [.line "const requiredFields = form.querySelectorAll('[required]');",
        .line "let isValid = true;",
        .block "requiredFields.forEach(function(field)"
          [.branch "!field.value.trim()"
            [.line "field.classList.add('error');", .line "isValid = false;"]
            [.line "field.classList.remove('error');"]] ");",
        .line "return isValid;"] ""]

def runtime : String :=
  writeLines "" runtimeCode

/-- What is wired to the element of a component. -/
inductive Wiring
  | click (id handler : String)
  | submit (id : String)

/-- Buttons have a wiring if they have a click handler and scripts of the user are allowed,
forms have one always. -/
def Widget.wiring? (mode : EscapeMode) (w : Widget) : Option Wiring :=
  match w.kind with
  | .button =>
    if mode.allowsScript then (w.props.text? "onClick").map (.click w.id) else none
  | .form => some (.submit w.id)
  | _ => none

def Forest.wirings (mode : EscapeMode) (forest : Forest) : List Wiring :=
  forest.preorder.filterMap fun c => c.widget.wiring? mode

/-- A wiring is that of a form, or of a button with a handler where scripts of the user are
allowed. -/
theorem Forest.wirings_cases {mode : EscapeMode} {forest : Forest} {wiring : Wiring}
    (h : wiring ∈ forest.wirings mode) :
    ∃ c ∈ forest.preorder, wiring = .submit c.widget.id ∨
      mode.allowsScript = true ∧ c.widget.kind = .button ∧
        ∃ handler, c.widget.props.text? "onClick" = some handler ∧
          wiring = .click c.widget.id handler := by
  obtain ⟨c, hc, hwiring⟩ := List.mem_filterMap.mp h
  refine ⟨c, hc, ?_⟩
  unfold Widget.wiring? at hwiring
  split at hwiring
  · next hkind =>
      split at hwiring
      · next hallows =>
          obtain ⟨handler, hhandler, rfl⟩ := Option.map_eq_some_iff.mp hwiring
          exact Or.inr ⟨hallows, hkind, handler, hhandler, rfl⟩
      · cases hwiring
  · exact Or.inl (Option.some.inj hwiring).symm
  · cases hwiring

/-- The head of a listener for an event of the element with this id. -/
def listenerHead (mode : EscapeMode) (id event parameter : String) : String :=
  "document.getElementById('" ++ mode.script id ++ "').addEventListener('" ++ event ++
    "', function(" ++ parameter ++ ")"

def Wiring.code (mode : EscapeMode) : Wiring → Code
  | .click id handler => .block (listenerHead mode id "click" "") [.line handler] ");"
  | .submit id =>
    .block (listenerHead mode id "submit" "e")
      [.line "e.preventDefault();",
        .line "const formData = new FormData(this);",
        .line "console.log('Form submitted:', Object.fromEntries(formData));"] ");"

def Wiring.write (mode : EscapeMode) (wiring : Wiring) : String :=
  "\n" ++ (wiring.code mode).write ""

def Forest.script (mode : EscapeMode) (forest : Forest) : String :=
  runtime ++ String.join ((forest.wirings mode).map (Wiring.write mode))

end StaticSite
