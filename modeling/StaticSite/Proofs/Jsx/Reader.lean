import StaticSite.Jsx.Tree
import StaticSite.Proofs.Html.Documents

/-!
# Reading JSX

A reader of JSX goes through an element character by character. It reads tags as a tokenizer of
HTML does, and also tags that close themselves, and it decodes texts and values. In a text, an
opening brace begins a container of code, which goes on to the closing brace that belongs to it;
braces in comments do not count. The reader fails on a closing brace and on a `>` in a text, on a
container in place of a value, and where code has a literal or a tag, so that it never has to guess.
-/

namespace StaticSite

def Html.Within.isText : Html.Within → Bool
  | .text _ => true
  | _ => false

def Html.Within.chars : Html.Within → List Char
  | .text run => run
  | _ => []

namespace Jsx

open Text (Flow TextToken ofText textRun textChars joinTexts)

inductive Token
  | markup (token : Html.Token)
  | container (code : String)
  deriving DecidableEq

instance : TextToken Token where
  ofText s := .markup (.text s)
  text?
    | .markup (.text s) => some s
    | _ => none
  text?_ofText _ := rfl

def Token.startTag (name : String) (attributes : List (String × Option String)) : Token :=
  .markup (.startTag name attributes)

def Token.endTag (name : String) : Token :=
  .markup (.endTag name)

def Token.enclose (name : String) (attributes : List (String × Option String))
    (inner : List Token) : List Token :=
  startTag name attributes :: (inner ++ [endTag name])

/-! ## The reader -/

inductive CodeWithin
  | plain
  | slash
  | comment
  | star
  deriving DecidableEq

/-- A reader has met some tokens. It is in markup, or behind the slash of a tag that closes itself,
or in a container with some open braces of its own. -/
inductive Reader
  | markup (met : List Token) (within : Html.Within)
  | selfClosing (met : List Token) (tag : Html.OpenTag)
  | container (met : List Token) (code : List Char) (depth : Nat) (within : CodeWithin)

/-- The state behind a character of a comment. -/
def CodeWithin.behind (c : Char) : CodeWithin :=
  if c = '*' then .star else .comment

namespace Reader

def behind (met : List Token) (t : Html.Tokenizer) : Reader :=
  .markup (met ++ t.done.map fun token => .markup token.decoded) t.within

/-- The reader behind a brace that closes one of the code, or else the container. -/
def behindBrace (met : List Token) (code : List Char) : Nat → Reader
  | 0 => .markup (met ++ [.container (String.ofList code)]) (.text [])
  | depth + 1 => .container met (code ++ ['\x7d']) depth .plain

def step : Reader → Char → Option Reader
  | .markup met (.text chars), c =>
    if c = '\x7b' then
      some (.container (met ++ textRun (Text.decodeEntities (String.ofList chars))) [] 0 .plain)
    else if c = '\x7d' ∨ c = '>' then none
    else (Html.Tokenizer.step ⟨[], .text chars⟩ c).map (behind met)
  | .markup met (.attributeName tag []), c =>
    if c = '/' then some (.selfClosing met tag)
    else (Html.Tokenizer.step ⟨[], .attributeName tag []⟩ c).map (behind met)
  | .markup met within, c => (Html.Tokenizer.step ⟨[], within⟩ c).map (behind met)
  | .selfClosing met tag, c =>
    if c = '>' then
      some (behind met ⟨[.startTag tag.name tag.attributes, .endTag tag.name], .text []⟩)
    else none
  | .container met code depth .plain, c =>
    if c = '\x7d' then some (behindBrace met code depth)
    else if c = '\x7b' then some (.container met (code ++ [c]) (depth + 1) .plain)
    else if c = '/' then some (.container met (code ++ [c]) depth .slash)
    else if c ∈ ['"', '\'', '`', '<'] then none
    else some (.container met (code ++ [c]) depth .plain)
  | .container met code depth .slash, c =>
    if c = '*' then some (.container met (code ++ [c]) depth .comment) else none
  | .container met code depth .comment, c =>
    some (.container met (code ++ [c]) depth (.behind c))
  | .container met code depth .star, c =>
    some (.container met (code ++ [c]) depth (if c = '/' then .plain else .behind c))

end Reader

/-- The tokens of an element, if the text ends outside tags and containers. -/
def readElement (s : String) : Option (List Token) :=
  match Text.read Reader.step (.markup [] (.text [])) s with
  | some (.markup met (.text rest)) =>
    some (met ++ textRun (Text.decodeEntities (String.ofList rest)))
  | _ => none

/-! ## Texts have no braces -/

def BraceFree (cs : List Char) : Prop :=
  ∀ c ∈ cs, c ≠ '\x7b' ∧ c ≠ '\x7d'

instance (cs : List Char) : Decidable (BraceFree cs) :=
  List.decidableBAll (fun c => c ≠ '\x7b' ∧ c ≠ '\x7d') cs

@[simp] theorem braceFree_nil : BraceFree [] := by
  simp [BraceFree]

@[simp] theorem braceFree_append {a b : List Char} :
    BraceFree (a ++ b) ↔ BraceFree a ∧ BraceFree b := by
  simp only [BraceFree, List.forall_mem_append]

theorem braceFree_decodeChars {cs : List Char} (h : BraceFree cs) :
    BraceFree (Text.decodeChars cs) := by
  have hcons {c : Char} {rest : List Char} (hc : c ≠ '\x7b' ∧ c ≠ '\x7d')
      (hrest : BraceFree rest) : BraceFree (c :: rest) :=
    List.forall_mem_cons.mpr ⟨hc, hrest⟩
  induction cs using Text.decodeChars.induct
  case case7 => simp [Text.decodeChars]
  case case6 c rest _ _ _ _ _ ih =>
      obtain ⟨hc, hrest⟩ := List.forall_mem_cons.mp h
      rw [Text.decodeChars] <;> try assumption
      exact hcons hc (ih hrest)
  all_goals
      rename_i rest ih
      have hrest : BraceFree rest := fun c hc => h c (by simp [hc])
      exact hcons (by decide) (ih hrest)

theorem braceFree_htmlChar {c : Char} (h : c ≠ '\x7b' ∧ c ≠ '\x7d') :
    BraceFree (Text.htmlChar c) := by
  unfold Text.htmlChar
  split
  case h_6 => simpa [BraceFree] using h
  all_goals decide

theorem braceFree_escapeHtml {s : String} (h : BraceFree s.toList) :
    BraceFree (Text.escapeHtml s).toList := by
  intro d hd
  rw [Text.escapeHtml_eq_escapeWith, Text.mem_escapeWith] at hd
  obtain ⟨c, hc, hmem⟩ := hd
  exact braceFree_htmlChar (h c hc) d hmem

/-- In a tag, a tokenizer meets no text, and what it meets ends the tag. -/
theorem tokenizer_step_tag {within : Html.Within} (hwithin : within.isText = false) {c : Char}
    {t : Html.Tokenizer} (hstep : Html.Tokenizer.step ⟨[], within⟩ c = some t) :
    t.within.chars = [] ∧ (∀ token ∈ t.done, Text.text? token.decoded = none) ∧
      (t.done = [] → t.within.isText = false) := by
  cases within <;> simp only [Html.Within.isText, Bool.true_eq_false] at hwithin
  all_goals
    simp only [Html.Tokenizer.step, Html.Tokenizer.behind] at hstep
    split_ifs at hstep
  all_goals
    obtain rfl := Option.some.inj hstep
    simp [Html.Within.chars, Html.Within.isText, Html.Token.decoded, Text.text?]

namespace Reader

/-- The characters of the texts that a reader has met. -/
def texts : Reader → List Char
  | .markup met within => met.flatMap textChars ++ within.chars
  | .selfClosing met _ => met.flatMap textChars
  | .container met _ _ _ => met.flatMap textChars

theorem texts_behind (met : List Token) (t : Html.Tokenizer) :
    (behind met t).texts =
      met.flatMap textChars ++ t.done.flatMap (fun token => textChars token.decoded) ++
        t.within.chars := by
  have hmarkup (token : Html.Token) : textChars (Token.markup token) = textChars token := by
    cases token <;> rfl
  simp [behind, texts, List.flatMap_map, hmarkup]

theorem texts_behind_of_textless (met : List Token) {t : Html.Tokenizer}
    (hwithin : t.within.chars = []) (hdone : ∀ token ∈ t.done, Text.text? token.decoded = none) :
    (behind met t).texts = met.flatMap textChars := by
  have htokens : t.done.flatMap (fun token => textChars token.decoded) = [] := by
    rw [List.flatMap_eq_nil_iff]
    intro token htoken
    rw [textChars, hdone token htoken]
    rfl
  rw [texts_behind, htokens, hwithin, List.append_nil, List.append_nil]

/-- In a tag the reader does what the tokenizer does, or it meets the slash at the end. -/
theorem step_tag {met : List Token} {within : Html.Within} (hwithin : within.isText = false)
    {c : Char} {next : Reader} (hstep : step (.markup met within) c = some next) :
    (∃ tag, next = .selfClosing met tag) ∨
      ∃ t, Html.Tokenizer.step ⟨[], within⟩ c = some t ∧ behind met t = next := by
  cases within with
  | text chars => simp [Html.Within.isText] at hwithin
  | attributeName tag name =>
      cases name with
      | nil =>
          rw [step] at hstep
          split_ifs at hstep
          · exact Or.inl ⟨tag, (Option.some.inj hstep).symm⟩
          · exact Or.inr (Option.map_eq_some_iff.mp hstep)
      | cons d name => exact Or.inr (Option.map_eq_some_iff.mp hstep)
  | _ => exact Or.inr (Option.map_eq_some_iff.mp hstep)

theorem flatMap_run (chars : List Char) :
    (Html.Token.run (String.ofList chars)).flatMap (fun token => textChars token.decoded) =
      Text.decodeChars chars := by
  unfold Html.Token.run
  by_cases hchars : chars = []
  · subst hchars
    rfl
  · simp [hchars, Html.Token.decoded, textChars, Text.text?, Text.decodeEntities]

theorem braceFree_textStep {met : List Token} {chars : List Char} {next : Reader} {c : Char}
    (hmet : BraceFree (met.flatMap textChars)) (hchars : BraceFree chars)
    (hstep : step (.markup met (.text chars)) c = some next) : BraceFree next.texts := by
  have hdecoded := braceFree_decodeChars hchars
  rw [step] at hstep
  split_ifs at hstep with hopen hstops
  · obtain rfl := Option.some.inj hstep
    have htext : BraceFree (Text.decodeEntities (String.ofList chars)).toList := by
      simpa [Text.decodeEntities] using hdecoded
    simpa [texts, Text.flatMap_textRun] using ⟨hmet, htext⟩
  · rw [Html.Tokenizer.step] at hstep
    split_ifs at hstep with hangle
    · obtain rfl := Option.some.inj hstep
      rw [texts_behind, List.nil_append, flatMap_run]
      simpa [Html.Within.chars] using ⟨hmet, hdecoded⟩
    · obtain rfl := Option.some.inj hstep
      have hc : BraceFree [c] := by
        simpa [BraceFree] using ⟨hopen, fun hclose => hstops (Or.inl hclose)⟩
      rw [texts_behind]
      simpa [Html.Within.chars] using ⟨hmet, hchars, hc⟩

theorem braceFree_step (state : Reader) (c : Char) (next : Reader) (h : BraceFree state.texts)
    (hstep : state.step c = some next) : BraceFree next.texts := by
  cases state with
  | markup met within =>
      rw [texts, braceFree_append] at h
      by_cases htext : within.isText = true
      · cases within <;> simp only [Html.Within.isText, Bool.false_eq_true] at htext
        exact braceFree_textStep h.1 h.2 hstep
      · rw [Bool.not_eq_true] at htext
        obtain ⟨tag, rfl⟩ | ⟨t, ht, rfl⟩ := step_tag htext hstep
        · exact h.1
        · obtain ⟨hchars, hdone, _⟩ := tokenizer_step_tag htext ht
          rw [texts_behind_of_textless met hchars hdone]
          exact h.1
  | selfClosing met tag =>
      rw [step] at hstep
      split_ifs at hstep
      obtain rfl := Option.some.inj hstep
      rwa [texts_behind_of_textless met rfl (by simp [Html.Token.decoded, Text.text?])]
  | container met code depth within =>
      cases within <;> simp only [step] at hstep
      case plain =>
          split_ifs at hstep <;> obtain rfl := Option.some.inj hstep
          · cases depth with
            | zero => simpa [behindBrace, texts, Html.Within.chars, textChars, Text.text?] using h
            | succ depth => exact h
          all_goals exact h
      case slash =>
          split_ifs at hstep
          obtain rfl := Option.some.inj hstep
          exact h
      all_goals
          obtain rfl := Option.some.inj hstep
          exact h

end Reader

/-- No text that a reader meets has a brace. -/
theorem braceFree_of_read {s : String} {tokens : List Token} (hread : readElement s = some tokens) :
    BraceFree (tokens.flatMap textChars) := by
  rw [readElement] at hread
  split at hread
  · next met rest hlast =>
      obtain rfl := Option.some.inj hread
      have htexts := Text.read_invariant (P := fun state => BraceFree state.texts)
        Reader.braceFree_step (by simp [Reader.texts, Html.Within.chars]) hlast
      rw [Reader.texts, braceFree_append] at htexts
      have hrest := braceFree_decodeChars htexts.2
      simpa [Text.flatMap_textRun, Text.decodeEntities] using ⟨htexts.1, hrest⟩
  · cases hread

end Jsx

end StaticSite
