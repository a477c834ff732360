/-!
# Escaping

Each kind of output has characters of its own that end a text there. Escaping replaces a
text character by character, so it commutes with putting texts together. A text in which none
of the special characters occurs is given back as it is.
-/

namespace StaticSite.Text

def escapeWith (escapeChar : Char → List Char) (s : String) : String :=
  String.ofList (s.toList.flatMap escapeChar)

theorem escapeWith_append (escapeChar : Char → List Char) (s t : String) :
    escapeWith escapeChar (s ++ t) = escapeWith escapeChar s ++ escapeWith escapeChar t := by
  simp [escapeWith]

theorem mem_escapeWith {escapeChar : Char → List Char} {s : String} {d : Char} :
    d ∈ (escapeWith escapeChar s).toList ↔ ∃ c ∈ s.toList, d ∈ escapeChar c := by
  simp [escapeWith]

theorem escapeWith_of_kept {escapeChar : Char → List Char} {s : String}
    (hkept : ∀ c ∈ s.toList, escapeChar c = [c]) : escapeWith escapeChar s = s := by
  have hchars : s.toList.flatMap escapeChar = s.toList := by
    rw [List.flatMap_def, List.map_congr_left hkept, ← List.flatMap_def, List.flatMap_singleton']
  rw [escapeWith, hchars, String.ofList_toList]

/-- Looks for a special character first, and writes nothing anew where there is none. -/
def escapeWhere (special : List Char) (escapeChar : Char → List Char) (s : String) : String :=
  if s.toList.any special.contains then escapeWith escapeChar s else s

/-- The look ahead changes nothing if all other characters are kept. -/
theorem escapeWhere_eq_escapeWith {special : List Char} {escapeChar : Char → List Char}
    (hkept : ∀ c, c ∉ special → escapeChar c = [c]) (s : String) :
    escapeWhere special escapeChar s = escapeWith escapeChar s := by
  unfold escapeWhere
  split
  · rfl
  · next hnone =>
      have hplain : ∀ c ∈ s.toList, c ∉ special := by simpa using hnone
      exact (escapeWith_of_kept fun c hc => hkept c (hplain c hc)).symm

def htmlSpecials : List Char :=
  ['&', '<', '>', '"', '\'']

/-- For text and double-quoted attributes of HTML. -/
def htmlChar (c : Char) : List Char :=
  match c with
  | '&' => ['&', 'a', 'm', 'p', ';']
  | '<' => ['&', 'l', 't', ';']
  | '>' => ['&', 'g', 't', ';']
  | '"' => ['&', 'q', 'u', 'o', 't', ';']
  | '\'' => ['&', '#', 'x', '2', '7', ';']
  | c => [c]

def scriptSpecials : List Char :=
  ['\\', '\'', '"', '<', '\n', '\r']

/-- For a single-quoted literal of a script that stands inside HTML. -/
def scriptChar (c : Char) : List Char :=
  match c with
  | '\\' => ['\\', '\\']
  | '\'' => ['\\', '\'']
  | '"' => ['\\', '"']
  | '<' => ['\\', 'u', '0', '0', '3', 'c']
  | '\n' => ['\\', 'n']
  | '\r' => ['\\', 'r']
  | c => [c]

def cssSpecials : List Char :=
  ['<']

/-- For a style sheet inside HTML, where no tag may begin. -/
def cssChar (c : Char) : List Char :=
  match c with
  | '<' => ['\\', '3', 'c', ' ']
  | c => [c]

/-- For a single-quoted PHP literal. -/
def phpChar (c : Char) : List Char :=
  match c with
  | '\\' => ['\\', '\\']
  | '\'' => ['\\', '\'']
  | c => [c]

def escapeHtml : String → String := escapeWhere htmlSpecials htmlChar

def escapeScript : String → String := escapeWhere scriptSpecials scriptChar

def escapeCss : String → String := escapeWhere cssSpecials cssChar

theorem htmlChar_of_not_special {c : Char} (hc : c ∉ htmlSpecials) : htmlChar c = [c] := by
  simp only [htmlSpecials, List.mem_cons, List.not_mem_nil, or_false, not_or] at hc
  simp [htmlChar, hc]

theorem scriptChar_of_not_special {c : Char} (hc : c ∉ scriptSpecials) : scriptChar c = [c] := by
  simp only [scriptSpecials, List.mem_cons, List.not_mem_nil, or_false, not_or] at hc
  simp [scriptChar, hc]

theorem cssChar_of_not_special {c : Char} (hc : c ∉ cssSpecials) : cssChar c = [c] := by
  simp only [cssSpecials, List.mem_singleton] at hc
  simp [cssChar]

theorem escapeHtml_eq_escapeWith (s : String) : escapeHtml s = escapeWith htmlChar s :=
  escapeWhere_eq_escapeWith (fun _ => htmlChar_of_not_special) s

theorem escapeScript_eq_escapeWith (s : String) : escapeScript s = escapeWith scriptChar s :=
  escapeWhere_eq_escapeWith (fun _ => scriptChar_of_not_special) s

theorem escapeCss_eq_escapeWith (s : String) : escapeCss s = escapeWith cssChar s :=
  escapeWhere_eq_escapeWith (fun _ => cssChar_of_not_special) s

theorem scriptChar_closed {c d : Char} (hd : d ∈ scriptChar c) :
    d ≠ '<' ∧ d ≠ '\n' ∧ d ≠ '\r' := by
  unfold scriptChar at hd
  split at hd
  case h_7 hangle hline hreturn =>
      rw [List.mem_singleton] at hd
      subst hd
      exact ⟨hangle, hline, hreturn⟩
  all_goals
      revert d
      simp

/-- No tag begins in an escaped text, and it stays in its line. -/
theorem escapeScript_closed {s : String} {d : Char} (hd : d ∈ (escapeScript s).toList) :
    d ≠ '<' ∧ d ≠ '\n' ∧ d ≠ '\r' := by
  rw [escapeScript_eq_escapeWith, mem_escapeWith] at hd
  obtain ⟨c, _, hmem⟩ := hd
  exact scriptChar_closed hmem

/-- A text as a single-quoted PHP literal. -/
def phpLiteral (s : String) : String :=
  "'" ++ escapeWith phpChar s ++ "'"

end StaticSite.Text

namespace StaticSite

/-- What becomes of the user's texts in the output. -/
inductive EscapeMode
  /-- They are inserted as they are, and can bring markup and scripts of their own. -/
  | verbatim
  /-- They are escaped, and the user's click handlers are left out. -/
  | escaped
  deriving DecidableEq

def EscapeMode.html : EscapeMode → String → String
  | .verbatim => id
  | .escaped => Text.escapeHtml

def EscapeMode.script : EscapeMode → String → String
  | .verbatim => id
  | .escaped => Text.escapeScript

def EscapeMode.css : EscapeMode → String → String
  | .verbatim => id
  | .escaped => Text.escapeCss

/-- Whether scripts of the user may be written. -/
def EscapeMode.allowsScript : EscapeMode → Bool
  | .verbatim => true
  | .escaped => false

end StaticSite
