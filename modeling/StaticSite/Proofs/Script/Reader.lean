import Mathlib.Tactic.SplitIfs
import StaticSite.Proofs.Text.Machine
import StaticSite.Text.Blank
import StaticSite.Text.Escape

/-!
# Reading scripts

A reader goes through a script character by character and tells code from comments, templates,
regular expressions and quoted literals, whose escapes it decodes. It collects the ids that the
script looks up: the literals with which the arguments of `getElementById` begin. A template in
that place has no value that the reader knows, so there it stops.

Whether a slash divides or begins a regular expression is for the grammar to say. Here any function
of the line up to the slash may say it, so what is proved holds whatever the grammar says.
-/

namespace StaticSite.Script

/-! ## Calls -/

def lookUpName : List Char :=
  ['g', 'e', 't', 'E', 'l', 'e', 'm', 'e', 'n', 't', 'B', 'y', 'I', 'd']

/-- The blanks of a script: a byte order mark is one of them. -/
def isBlank (c : Char) : Bool :=
  Text.isBlank c || c = '\uFEFF'

def isWordChar (c : Char) : Bool :=
  c.isAlphanum || c ∈ ['_', '$', '#'] || 127 < c.toNat && !isBlank c

/-- What stands in front of a place in code, as far as a call of `getElementById` goes. -/
inductive Preceding
  | other
  /-- A word that may go on. -/
  | word (chars : List Char)
  /-- The name of the function. -/
  | name
  /-- The name and the first half of `?.`. -/
  | question
  /-- The parenthesis behind the name, or one more behind that. -/
  | opening
  deriving DecidableEq

/-- The same behind a blank or a comment, where a word does not go on any more. -/
def Preceding.settled : Preceding → Preceding
  | .word chars => if chars = lookUpName then .name else .other
  | .question => .other
  | before => before

def Preceding.next (before : Preceding) (c : Char) : Preceding :=
  if isWordChar c then
    match before with
    | .word chars => .word (chars ++ [c])
    | _ => .word [c]
  else if isBlank c then before.settled
  else if before = .question ∧ c = '.' then .name
  else
    match before.settled, c with
    | .name, '?' => .question
    | .name, '(' => .opening
    | .opening, '(' => .opening
    | _, _ => .other

/-! ## Literals -/

def hexDigit? (c : Char) : Option Nat :=
  if '0' ≤ c ∧ c ≤ '9' then some (c.toNat - 48)
  else if 'a' ≤ c ∧ c ≤ 'f' then some (c.toNat - 87)
  else if 'A' ≤ c ∧ c ≤ 'F' then some (c.toNat - 55)
  else none

/-- The characters that one behind a backslash stands for; a line break stands for none. Escapes
with digits or with an `x` are not known. -/
def escaped? (c : Char) : Option (List Char) :=
  match c with
  | 'n' => some ['\n']
  | 'r' => some ['\r']
  | 't' => some ['\t']
  | 'b' => some [Char.ofNat 8]
  | 'v' => some [Char.ofNat 11]
  | 'f' => some [Char.ofNat 12]
  | '\n' => some []
  | '\r' => some []
  | 'x' => none
  | c => if c.isDigit then none else some [c]

/-- The character with these four digits; there is none for half of a surrogate pair. -/
def unicode? (digits : List Nat) : Option Char :=
  let code := digits.foldl (fun code digit => 16 * code + digit) 0
  if code.isValidChar then some (Char.ofNat code) else none

/-! ## Characters -/

/-- What the grammar makes of a slash that begins no comment. -/
inductive SlashRole
  | division
  | regex
  deriving DecidableEq

/-- What a reader is in the middle of. Comments keep what stands in front of them, for a call goes
on behind them. In a literal the reader knows what the value is so far and whether the code looks it
up. -/
inductive Within
  | code (before : Preceding)
  | slash (before : Preceding)
  | lineComment (before : Preceding)
  | blockComment (before : Preceding) (star : Bool)
  | literal (quote : Char) (looksUp : Bool) (value : List Char)
  | escape (quote : Char) (looksUp : Bool) (value : List Char)
  | unicode (quote : Char) (looksUp : Bool) (value : List Char) (digits : List Nat)
  | template (dollar : Bool)
  | templateEscape
  | regex (inClass : Bool)
  | regexEscape (inClass : Bool)
  deriving DecidableEq

/-- Code may stand in the `${ }` of a template. Of each of these around the reader it knows
how many braces are open in its code. -/
structure State where
  nested : List Nat
  within : Within
  deriving DecidableEq

/-- The beginning of a statement. -/
def State.start : State :=
  ⟨[], .code .other⟩

/-- No comment, literal, template or regular expression is open. -/
def State.isAtRest : State → Bool
  | ⟨[], .code _⟩ => true
  | _ => false

theorem State.exists_of_isAtRest {state : State} (h : state.isAtRest = true) :
    ∃ before, state = ⟨[], .code before⟩ := by
  unfold isAtRest at h
  split at h
  · exact ⟨_, rfl⟩
  · contradiction

def isLineEnd (c : Char) : Bool :=
  c ∈ ['\n', '\r', '\u2028', '\u2029']

/-- A closing brace in code may lead back to a template. -/
def State.closeBrace : List Nat → State
  | [] => ⟨[], .code .other⟩
  | 0 :: outer => ⟨outer, .template false⟩
  | (depth + 1) :: outer => ⟨depth :: outer, .code .other⟩

def State.openBrace : List Nat → State
  | [] => ⟨[], .code .other⟩
  | depth :: outer => ⟨(depth + 1) :: outer, .code .other⟩

/-- A character of code, or one that begins something else. -/
def State.inCode (nested : List Nat) (before : Preceding) (c : Char) : Option State :=
  if c = '\'' ∨ c = '"' then some ⟨nested, .literal c (before.settled = .opening) []⟩
  else if c = '`' then
    if before.settled = .name ∨ before.settled = .opening then none
    else some ⟨nested, .template false⟩
  else if c = '/' then some ⟨nested, .slash before.settled⟩
  else if c = '\x7b' then some (openBrace nested)
  else if c = '\x7d' then some (closeBrace nested)
  else if c = '\\' then none
  else some ⟨nested, .code (before.next c)⟩

/-- A slash does not end a regular expression where it stands between brackets. -/
def State.inRegex (nested : List Nat) (inClass : Bool) (c : Char) : Option State :=
  if isLineEnd c then none
  else if c = '\\' then some ⟨nested, .regexEscape inClass⟩
  else if inClass then some ⟨nested, .regex (c ≠ ']')⟩
  else if c = '/' then some ⟨nested, .code .other⟩
  else some ⟨nested, .regex (c = '[')⟩

/-- The state behind a character, if the script can go on with it. Where the role of a slash
matters but is not known, it cannot. -/
def State.next (role? : Option SlashRole) : State → Char → Option State
  | ⟨nested, .code before⟩, c => inCode nested before c
  | ⟨nested, .slash before⟩, c =>
    if c = '/' then some ⟨nested, .lineComment before⟩
    else if c = '*' then some ⟨nested, .blockComment before false⟩
    else
      match role? with
      | none => none
      | some .division => inCode nested .other c
      | some .regex => inRegex nested false c
  | ⟨nested, .lineComment before⟩, c =>
    if isLineEnd c then some ⟨nested, .code before⟩ else some ⟨nested, .lineComment before⟩
  | ⟨nested, .blockComment before star⟩, c =>
    if star = true ∧ c = '/' then some ⟨nested, .code before⟩
    else some ⟨nested, .blockComment before (c = '*')⟩
  | ⟨nested, .literal quote looksUp value⟩, c =>
    if c = quote then some ⟨nested, .code .other⟩
    else if c = '\\' then some ⟨nested, .escape quote looksUp value⟩
    else if c = '\n' ∨ c = '\r' then none
    else some ⟨nested, .literal quote looksUp (value ++ [c])⟩
  | ⟨nested, .escape quote looksUp value⟩, c =>
    if c = 'u' then some ⟨nested, .unicode quote looksUp value []⟩
    else (escaped? c).map fun chars => ⟨nested, .literal quote looksUp (value ++ chars)⟩
  | ⟨nested, .unicode quote looksUp value digits⟩, c =>
    (hexDigit? c).bind fun digit =>
      if digits.length < 3 then some ⟨nested, .unicode quote looksUp value (digits ++ [digit])⟩
      else (unicode? (digits ++ [digit])).map fun char =>
        ⟨nested, .literal quote looksUp (value ++ [char])⟩
  | ⟨nested, .template dollar⟩, c =>
    if c = '`' then some ⟨nested, .code .other⟩
    else if c = '\\' then some ⟨nested, .templateEscape⟩
    else if dollar = true ∧ c = '\x7b' then some ⟨0 :: nested, .code .other⟩
    else some ⟨nested, .template (c = '$')⟩
  | ⟨nested, .templateEscape⟩, _ => some ⟨nested, .template false⟩
  | ⟨nested, .regex inClass⟩, c => inRegex nested inClass c
  | ⟨nested, .regexEscape inClass⟩, c =>
    if isLineEnd c then none else some ⟨nested, .regex inClass⟩

/-- The id that a closing quote completes, if the code looks it up. -/
def State.found? : State → Char → Option String
  | ⟨_, .literal quote looksUp value⟩, c =>
    if c = quote ∧ looksUp = true then some (String.ofList value) else none
  | _, _ => none

/-- What stays possible where the role of a slash is known. -/
theorem State.next_of_none {state next : State} {c : Char}
    (h : state.next none c = some next) (role : SlashRole) :
    state.next (some role) c = some next := by
  obtain ⟨nested, within⟩ := state
  cases within with
  | slash before =>
      simp only [State.next] at h ⊢
      split_ifs at h ⊢
      · exact h
      · exact h
  | _ => exact h

/-! ## Readers -/

structure Reader where
  ids : List String
  state : State
  deriving DecidableEq

def Reader.step (role? : Option SlashRole) (r : Reader) (c : Char) : Option Reader :=
  (r.state.next role? c).map fun state =>
    match r.state.found? c with
    | some id => ⟨r.ids ++ [id], state⟩
    | none => ⟨r.ids, state⟩

/-- A reader that has found these ids before. -/
def Reader.behind (before : List String) (r : Reader) : Reader :=
  ⟨before ++ r.ids, r.state⟩

theorem Reader.step_behind (role? : Option SlashRole) (before : List String) (r : Reader)
    (c : Char) : (r.behind before).step role? c = (r.step role? c).map (·.behind before) := by
  unfold Reader.step
  cases hfound : r.state.found? c <;>
    simp [Reader.behind, hfound, Function.comp_def]

theorem Reader.step_of_none {r next : Reader} {c : Char} (h : r.step none c = some next)
    (role : SlashRole) : r.step (some role) c = some next := by
  unfold Reader.step at h ⊢
  obtain ⟨state, hstate, rfl⟩ := Option.map_eq_some_iff.mp h
  rw [State.next_of_none hstate role, Option.map_some]

theorem Reader.read_any {state next : State} {s : String}
    (h : Text.read (Reader.step none) ⟨[], state⟩ s = some ⟨[], next⟩) (ids : List String) :
    Text.read (Reader.step none) ⟨ids, state⟩ s = some ⟨ids, next⟩ := by
  have hread := Text.read_map (Reader.step_behind none ids) ⟨[], state⟩ s
  simpa [Reader.behind, h] using hread

/-! ## Lines -/

/-- What the grammar makes of a slash, by the line up to it without its indentation. -/
abbrev Slashes :=
  List Char → SlashRole

def lineBehind (line : List Char) (c : Char) : List Char :=
  if c = '\n' then []
  else if line = [] ∧ isBlank c then []
  else line ++ [c]

/-- The line that a text ends in. -/
def lineAfter (line : List Char) (s : String) : List Char :=
  s.toList.foldl lineBehind line

theorem lineAfter_append (line : List Char) (a b : String) :
    lineAfter line (a ++ b) = lineAfter (lineAfter line a) b := by
  simp [lineAfter, List.foldl_append]

theorem lineAfter_newline (line : List Char) (s : String) : lineAfter line (s ++ "\n") = [] := by
  rw [lineAfter_append]
  rfl

/-- A reader that knows its line. -/
structure LineReader where
  line : List Char
  reader : Reader

def LineReader.step (slashes : Slashes) (r : LineReader) (c : Char) : Option LineReader :=
  (r.reader.step (some (slashes r.line)) c).map fun reader => ⟨lineBehind r.line c, reader⟩

/-- The ids that a script looks up, in order, where it can be read and ends at rest. -/
def lookups (slashes : Slashes) (script : String) : Option (List String) :=
  (Text.read (LineReader.step slashes) ⟨[], [], .start⟩ script).bind fun r =>
    if r.reader.state.isAtRest then some r.reader.ids else none

def LineReader.behind (before : List String) (r : LineReader) : LineReader :=
  ⟨r.line, r.reader.behind before⟩

theorem LineReader.step_behind (slashes : Slashes) (before : List String) (r : LineReader)
    (c : Char) : (r.behind before).step slashes c = (r.step slashes c).map (·.behind before) := by
  simp [LineReader.step, LineReader.behind, Reader.step_behind, Function.comp_def]

/-- What can be read without the role of any slash is read so on every line. -/
theorem LineReader.read_plain {r next : Reader} {s : String}
    (h : Text.read (Reader.step none) r s = some next) (slashes : Slashes) (line : List Char) :
    Text.read (LineReader.step slashes) ⟨line, r⟩ s = some ⟨lineAfter line s, next⟩ := by
  unfold Text.read at h
  unfold Text.read lineAfter
  revert h
  induction s.toList generalizing line r with
  | nil =>
      intro h
      obtain rfl := Option.some.inj h
      rfl
  | cons c rest ih =>
      intro h
      rw [List.foldlM_cons, Option.bind_eq_bind, Option.bind_eq_some_iff] at h
      obtain ⟨between, hstep, hrest⟩ := h
      rw [List.foldlM_cons, LineReader.step, Reader.step_of_none hstep]
      exact ih (lineBehind line c) hrest

/-! ## Texts that look up ids -/

/-- Whole lines of code that look up these ids. -/
def LooksUp (slashes : Slashes) (s : String) (ids : List String) : Prop :=
  Text.read (LineReader.step slashes) ⟨[], [], .start⟩ s = some ⟨[], ids, .start⟩

theorem LooksUp.read_append {slashes : Slashes} {a : String} {ids : List String}
    (ha : LooksUp slashes a ids) (b : String) :
    Text.read (LineReader.step slashes) ⟨[], [], .start⟩ (a ++ b) =
      (Text.read (LineReader.step slashes) ⟨[], [], .start⟩ b).map (·.behind ids) := by
  have hbehind := Text.read_map (LineReader.step_behind slashes ids) ⟨[], [], .start⟩ b
  rw [LineReader.behind, Reader.behind, List.append_nil] at hbehind
  rw [Text.read_append, ha, Option.bind_some, hbehind]

theorem LooksUp.append {slashes : Slashes} {a b : String} {ids others : List String}
    (ha : LooksUp slashes a ids) (hb : LooksUp slashes b others) :
    LooksUp slashes (a ++ b) (ids ++ others) := by
  rw [LooksUp, ha.read_append, hb]
  rfl

theorem LooksUp.lookups_append {slashes : Slashes} {a : String} {ids : List String}
    (ha : LooksUp slashes a ids) (b : String) :
    lookups slashes (a ++ b) = (lookups slashes b).map (ids ++ ·) := by
  rw [lookups, lookups, ha.read_append]
  cases Text.read (LineReader.step slashes) ⟨[], [], .start⟩ b with
  | none => rfl
  | some r =>
      simp only [Option.map_some, Option.bind_some, LineReader.behind, Reader.behind]
      split_ifs <;> rfl

theorem LooksUp.lookups_eq {slashes : Slashes} {s : String} {ids : List String}
    (h : LooksUp slashes s ids) : lookups slashes s = some ids := by
  rw [lookups, h]
  rfl

theorem looksUp_of_plain {s : String} {ids : List String}
    (h : Text.read (Reader.step none) ⟨[], .start⟩ s = some ⟨ids, .start⟩)
    (hline : lineAfter [] s = []) (slashes : Slashes) : LooksUp slashes s ids := by
  rw [LooksUp, LineReader.read_plain h, hline]

/-- A text of code that looks nothing up, between the beginnings of two statements. -/
def isQuiet (s : String) : Bool :=
  Text.read (Reader.step none) ⟨[], .start⟩ s = some ⟨[], .start⟩

theorem isQuiet_iff {s : String} : isQuiet s = true ↔
    Text.read (Reader.step none) ⟨[], .start⟩ s = some ⟨[], .start⟩ := by
  rw [isQuiet, decide_eq_true_iff]

theorem isQuiet_append {a b : String} (ha : isQuiet a = true) (hb : isQuiet b = true) :
    isQuiet (a ++ b) = true := by
  rw [isQuiet_iff] at ha hb ⊢
  rw [Text.read_append, ha, Option.bind_some, hb]

theorem isQuiet_empty : isQuiet "" = true := by
  decide

/-! ## Values of literals -/

/-- A text in a single-quoted literal has this value. -/
def IsLiteral (text value : String) : Prop :=
  ∀ ids looksUp, Text.read (Reader.step none) ⟨ids, [], .literal '\'' looksUp []⟩ text =
    some ⟨ids, [], .literal '\'' looksUp value.toList⟩

theorem Reader.step_literal (ids : List String) (looksUp : Bool) (value : List Char) {c : Char}
    (hquote : c ≠ '\'') (hback : c ≠ '\\') (hline : ¬(c = '\n' ∨ c = '\r')) :
    Reader.step none ⟨ids, [], .literal '\'' looksUp value⟩ c =
      some ⟨ids, [], .literal '\'' looksUp (value ++ [c])⟩ := by
  rw [Reader.step, State.next, State.found?, if_neg hquote, if_neg hback, if_neg hline,
    if_neg (fun h => hquote h.1), Option.map_some]

theorem isLiteral_of_plain {s : String}
    (hs : ∀ c ∈ s.toList, c ≠ '\'' ∧ c ≠ '\\' ∧ c ≠ '\n' ∧ c ≠ '\r') : IsLiteral s s := by
  intro ids looksUp
  refine Text.read_gather
    (g := fun value => Reader.mk ids ⟨[], .literal '\'' looksUp value⟩) ?_ [] hs
  intro value c hc
  obtain ⟨hquote, hback, hline, hreturn⟩ := hc
  exact Reader.step_literal ids looksUp value hquote hback (not_or.mpr ⟨hline, hreturn⟩)

/-- The closing quote ends the value. -/
theorem read_quote (ids : List String) (looksUp : Bool) (value : List Char) :
    Text.read (Reader.step none) ⟨ids, [], .literal '\'' looksUp value⟩ "'" =
      some ⟨if looksUp then ids ++ [String.ofList value] else ids, .start⟩ := by
  cases looksUp <;> rfl

end StaticSite.Script
