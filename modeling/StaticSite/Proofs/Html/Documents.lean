import StaticSite.Proofs.Html.Events
import StaticSite.Proofs.Text.Joining

/-!
# Reading whole documents

The content of some elements is no markup: a title holds a text with entities, and a style sheet
or a script a text without. Such a text goes on up to the end tag of its element. A reader of
documents reads markup as a tokenizer does, decodes what it reads, and fails on every other `<` in
a text of this kind. It meets what the tree of the document holds, with adjacent texts as one.
-/

namespace StaticSite.Html

open Token
open Text (Flow joinTexts)

/-! ## Contents of elements -/

inductive Content
  | markup
  /-- A text with entities. -/
  | escapable
  /-- A text that is taken as it is. -/
  | raw
  deriving DecidableEq

def contentOf (name : String) : Content :=
  if name ∈ ["title", "textarea"] then .escapable
  else if name ∈ ["style", "script", "xmp", "iframe", "noembed", "noframes", "noscript"] then .raw
  else .markup

def contentText (name content : String) : String :=
  match contentOf name with
  | .raw => content
  | _ => Text.decodeEntities content

/-! ## The reader -/

/-- A reader has met some tokens. It reads markup, or the content of an element that holds none,
or it expects some characters and goes on behind them. -/
inductive DocumentReader
  | markup (met : List Token) (within : Within)
  | content (met : List Token) (name : String) (chars : List Char)
  | expecting (left : List Char) (next : DocumentReader)

def DocumentReader.behind (met : List Token) (t : Tokenizer) : DocumentReader :=
  match t.done.getLast? with
  | some (.startTag name _) =>
      if contentOf name = .markup then .markup (met ++ t.done.map decoded) t.within
      else .content (met ++ t.done.map decoded) name []
  | _ => .markup (met ++ t.done.map decoded) t.within

/-- The reader behind the end tag of an element whose content is no markup. -/
def DocumentReader.behindContent (met : List Token) (name : String) (chars : List Char) :
    DocumentReader :=
  .markup (met ++ run (contentText name (String.ofList chars)) ++ [.endTag name]) (.text [])

def DocumentReader.step : DocumentReader → Char → Option DocumentReader
  | .markup met within, c => (Tokenizer.step ⟨[], within⟩ c).map (behind met)
  | .content met name chars, c =>
    if c = '<' then some (.expecting ('/' :: name.toList ++ ['>']) (behindContent met name chars))
    else some (.content met name (chars ++ [c]))
  | .expecting [] _, _ => none
  | .expecting (d :: left) next, c =>
    if c = d then some (if left.isEmpty then next else .expecting left next) else none

def doctype : String := "<!DOCTYPE html>"

/-- The decoded tokens of a document, if it begins with its type and ends outside a tag. -/
def readDocument (s : String) : Option (List Token) :=
  match Text.read DocumentReader.step (.expecting doctype.toList (.markup [] (.text []))) s with
  | some (.markup met (.text rest)) => some (met ++ (run (String.ofList rest)).map decoded)
  | _ => none

theorem DocumentReader.foldlM_expecting {left : List Char} (hleft : left ≠ [])
    (next : DocumentReader) : left.foldlM step (.expecting left next) = some next := by
  induction left with
  | nil => exact absurd rfl hleft
  | cons d rest ih =>
      rw [List.foldlM_cons, step, if_pos rfl]
      by_cases hrest : rest = []
      · subst hrest
        rfl
      · simpa [hrest] using ih hrest

/-! ## Markup -/

def Tokenizer.after (before : List Token) (t : Tokenizer) : Tokenizer :=
  ⟨before ++ t.done, t.within⟩

theorem Tokenizer.step_after (before : List Token) (t : Tokenizer) (c : Char) :
    (t.after before).step c = (t.step c).map (·.after before) := by
  obtain ⟨done, within⟩ := t
  cases within
  all_goals
    simp only [after, step, behind]
    split_ifs <;> simp

theorem Tokenizer.foldlM_after (before : List Token) (t : Tokenizer) (cs : List Char) :
    cs.foldlM Tokenizer.step (t.after before) =
      (cs.foldlM Tokenizer.step t).map (·.after before) :=
  Text.foldlM_map (step_after before) t cs

/-- A run of the tokenizer is its first step and a run that has met nothing yet. -/
theorem Tokenizer.foldlM_cons {c : Char} {rest : List Char} {within last : Within}
    {tokens : List Token}
    (hread : (c :: rest).foldlM Tokenizer.step ⟨[], within⟩ = some ⟨tokens, last⟩) :
    ∃ first next others, Tokenizer.step ⟨[], within⟩ c = some ⟨first, next⟩ ∧
      rest.foldlM Tokenizer.step ⟨[], next⟩ = some ⟨others, last⟩ ∧ tokens = first ++ others := by
  rw [List.foldlM_cons, Option.bind_eq_bind, Option.bind_eq_some_iff] at hread
  obtain ⟨⟨first, next⟩, hstep, hrest⟩ := hread
  have hsplit : Tokenizer.mk first next = Tokenizer.after first ⟨[], next⟩ := by
    simp [Tokenizer.after]
  rw [hsplit, Tokenizer.foldlM_after, Option.map_eq_some_iff] at hrest
  obtain ⟨⟨others, last'⟩, hothers, hlast⟩ := hrest
  simp only [Tokenizer.after, Tokenizer.mk.injEq] at hlast
  obtain ⟨rfl, rfl⟩ := hlast
  exact ⟨first, next, others, hstep, hothers, rfl⟩

def Token.holdsMarkup : Token → Bool
  | .startTag name _ => contentOf name = .markup
  | _ => true

namespace DocumentReader

theorem behind_of_holdsMarkup (met : List Token) {t : Tokenizer}
    (ht : ∀ token ∈ t.done, token.holdsMarkup = true) :
    behind met t = .markup (met ++ t.done.map decoded) t.within := by
  unfold behind
  split
  · next name attributes hlast =>
      have hmarkup : contentOf name = .markup := by
        simpa [Token.holdsMarkup] using ht _ (List.mem_of_getLast? hlast)
      rw [if_pos hmarkup]
  · rfl

/-- Before the content of an element that holds no markup, the reader is the tokenizer. -/
theorem foldlM_markup {cs : List Char} {within last : Within} {tokens : List Token}
    (hread : cs.foldlM Tokenizer.step ⟨[], within⟩ = some ⟨tokens, last⟩)
    (htokens : ∀ token ∈ tokens, token.holdsMarkup = true) (met : List Token) :
    cs.foldlM step (.markup met within) = some (.markup (met ++ tokens.map decoded) last) := by
  induction cs generalizing within tokens met with
  | nil =>
      simp only [List.foldlM_nil, Option.pure_def, Option.some.injEq, Tokenizer.mk.injEq] at hread
      simp [← hread.1, hread.2]
  | cons c rest ih =>
      obtain ⟨first, next, others, hstep, hrest, rfl⟩ := Tokenizer.foldlM_cons hread
      have hfirst : ∀ token ∈ first, token.holdsMarkup = true :=
        fun token ht => htokens token (List.mem_append_left others ht)
      have hothers : ∀ token ∈ others, token.holdsMarkup = true :=
        fun token ht => htokens token (List.mem_append_right first ht)
      rw [List.foldlM_cons, step, hstep, Option.map_some, behind_of_holdsMarkup met hfirst,
        Option.bind_eq_bind, Option.bind_some, ih hrest hothers]
      simp

end DocumentReader

/-! ## Adjacent texts -/

instance : Text.TextToken Token where
  ofText := .text
  text?
    | .text s => some s
    | _ => none
  text?_ofText _ := rfl

section Flow

variable (f : Flow Token)

@[simp] theorem flow_text (s : String) : f.take (.text s) = ⟨f.met, f.rest ++ s⟩ := rfl

@[simp] theorem flow_startTag (name : String) (attributes : List (String × Option String)) :
    f.take (.startTag name attributes) =
      ⟨f.met ++ run f.rest ++ [.startTag name attributes], ""⟩ := rfl

@[simp] theorem flow_endTag (name : String) :
    f.take (.endTag name) = ⟨f.met ++ run f.rest ++ [.endTag name], ""⟩ := rfl

theorem flow_tokens : f.tokens = f.met ++ run f.rest := rfl

theorem flow_run (s : String) : (run s).foldl Flow.take f = f.take (.text s) :=
  f.foldl_textRun s

end Flow

/-- A reader that has met these tokens, and a text that was escaped. -/
def reader (f : Flow Token) : DocumentReader :=
  .markup f.met (.text (Text.escapeHtml f.rest).toList)

/-! ## Parts of a document -/

theorem Token.decoded_startTag (name : String) (attributes : List Attribute) :
    (Token.startTag name (attributes.map (·.pair .escaped))).decoded =
      .startTag name (attributes.map (·.meaning)) := by
  simp [decoded, Attribute.meaning, Attribute.pair, Function.comp_def]

theorem Token.run_holdsMarkup (s : String) : ∀ token ∈ run s, token.holdsMarkup = true := by
  intro token htoken
  unfold run at htoken
  split_ifs at htoken
  · cases htoken
  · obtain rfl := List.mem_singleton.mp htoken
    rfl

namespace DocumentReader

section Parts

variable (f : Flow Token) {name : String} {attributes : List Attribute}

theorem read_text (s : String) :
    Text.read step (reader f) (Text.escapeHtml s) = some (reader (f.take (.text s))) := by
  have hstep : ∀ chars c, c ≠ '<' →
      step (.markup f.met (.text chars)) c = some (.markup f.met (.text (chars ++ [c]))) := by
    intro chars c hc
    simp [step, Tokenizer.step, hc, behind]
  have hread := Text.read_gather (g := fun chars => markup f.met (.text chars)) hstep
    (Text.escapeHtml f.rest).toList (s := Text.escapeHtml s)
    fun c hc => (Text.escapeHtml_closed hc).1
  rw [reader, hread, flow_text, reader]
  simp [Text.escapeHtml_append]

/-- A tag ends the text before it. -/
theorem read_tag {s : String} {token : Token}
    (hread : Tokenizer.read ⟨[], .text (Text.escapeHtml f.rest).toList⟩ s =
      some ⟨run (Text.escapeHtml f.rest) ++ [token], .text []⟩)
    (htoken : token.holdsMarkup = true) (htext : ∀ t, token ≠ .text t) :
    Text.read step (reader f) s = some (reader (f.take token.decoded)) := by
  have htokens : ∀ t ∈ run (Text.escapeHtml f.rest) ++ [token], t.holdsMarkup = true := by
    intro t ht
    rcases List.mem_append.mp ht with hrun | hlast
    · exact Token.run_holdsMarkup _ t hrun
    · obtain rfl := List.mem_singleton.mp hlast
      exact htoken
  have htake : f.take token.decoded = ⟨f.met ++ run f.rest ++ [token.decoded], ""⟩ := by
    cases token with
    | text t => exact absurd rfl (htext t)
    | startTag name attributes => rfl
    | endTag name => rfl
  rw [reader, Text.read, foldlM_markup hread htokens, htake, reader,
    List.map_append, map_decoded_run, Text.escapeHtml_empty]
  simp

theorem read_startTag (hname : isName name = true) (hmarkup : contentOf name = .markup)
    (hattributes : ∀ a ∈ attributes, a.Readable .escaped) :
    Text.read step (reader f) (startTag .escaped name attributes) =
      some (reader (f.take (.startTag name (attributes.map (·.meaning))))) := by
  have hread : Tokenizer.read ⟨[], .text (Text.escapeHtml f.rest).toList⟩
      (startTag .escaped name attributes) = _ :=
    Tokenizer.read_startTag _ hname hattributes
  rw [String.ofList_toList, List.nil_append] at hread
  rw [read_tag f hread (by simpa [Token.holdsMarkup] using hmarkup) (by simp),
    Token.decoded_startTag]

theorem read_endTag (hname : isName name = true) :
    Text.read step (reader f) ("</" ++ name ++ ">") =
      some (reader (f.take (.endTag name))) := by
  have hread : Tokenizer.read ⟨[], .text (Text.escapeHtml f.rest).toList⟩
      ("</" ++ name ++ ">") = _ :=
    Tokenizer.read_endTag _ hname
  rw [String.ofList_toList, List.nil_append] at hread
  rw [read_tag f hread rfl (by simp)]
  rfl

theorem read_content (met : List Token) {content : String}
    (hcontent : '<' ∉ content.toList) :
    Text.read step (.content met name []) content = some (.content met name content.toList) := by
  have hstep : ∀ chars c, c ≠ '<' →
      step (.content met name chars) c = some (.content met name (chars ++ [c])) := by
    intro chars c hc
    rw [step, if_neg hc]
  exact Text.read_gather hstep [] fun c hc hopen => hcontent (hopen ▸ hc)

theorem read_behindContent (met : List Token) (chars : List Char) :
    Text.read step (.content met name chars) ("</" ++ name ++ ">") =
      some (behindContent met name chars) := by
  have htag : ("</" ++ name ++ ">").toList = '<' :: ('/' :: name.toList ++ ['>']) := by
    simp
  rw [Text.read, htag, List.foldlM_cons, step, if_pos rfl, Option.bind_eq_bind, Option.bind_some]
  exact foldlM_expecting (by simp) _

theorem read_contentTag (hname : isName name = true) (hcontent : contentOf name ≠ .markup)
    (hattributes : ∀ a ∈ attributes, a.Readable .escaped) :
    Text.read step (reader f) (startTag .escaped name attributes) =
      some (.content (f.take (.startTag name (attributes.map (·.meaning)))).met name []) := by
  obtain ⟨⟨tokens, within⟩, hfront, hu⟩ := Tokenizer.read_tagFront [] hname hattributes
  obtain rfl : tokens = [] := hu.met
  have hopen : Tokenizer.read ⟨[], .text (Text.escapeHtml f.rest).toList⟩ "<" =
      some ⟨run (Text.escapeHtml f.rest), .tag⟩ := by
    simp [Text.read, Tokenizer.step]
  have hbegin := foldlM_markup hopen (Token.run_holdsMarkup _) f.met
  have hname := foldlM_markup hfront (by simp) (f.met ++ run f.rest)
  rw [map_decoded_run] at hbegin
  have hsplit : startTag .escaped name attributes =
      "<" ++ (name ++ writeAttributes .escaped attributes) ++ ">" := by
    simp only [startTag, String.append_assoc]
  rw [hsplit, Text.read_append, Text.read_append, reader, Text.read, hbegin, Option.bind_some,
    Text.read, hname, Option.bind_some]
  simp [Text.read, step, hu.close, behind, hcontent, Token.decoded_startTag]

theorem read_contentElement (hname : isName name = true) (hmarkup : contentOf name ≠ .markup)
    (hattributes : ∀ a ∈ attributes, a.Readable .escaped) {content : String}
    (hcontent : '<' ∉ content.toList) :
    Text.read step (reader f)
        (startTag .escaped name attributes ++ content ++ "</" ++ name ++ ">") =
      some (reader ((enclose name (attributes.map (·.meaning))
        (run (contentText name content))).foldl Flow.take f)) := by
  have hend : startTag .escaped name attributes ++ content ++ "</" ++ name ++ ">" =
      startTag .escaped name attributes ++ (content ++ ("</" ++ name ++ ">")) := by
    simp only [String.append_assoc]
  rw [hend, Text.read_append, read_contentTag f hname hmarkup hattributes, Option.bind_some,
    Text.read_append, read_content _ hcontent, Option.bind_some, read_behindContent, enclose,
    List.foldl_cons, List.foldl_append, flow_run]
  simp [behindContent, reader]

end Parts

end DocumentReader

/-! ## Trees -/

mutual

/-- What a reader of a document meets in a tree. -/
def contents : Html → List Token
  | .text s => run s
  | .code s => run s
  | .void tag attributes => [.startTag tag (attributes.map (·.meaning))]
  | .element tag attributes children =>
    enclose tag (attributes.map (·.meaning))
      (if contentOf tag = .markup then contentsAll children
      else run (contentText tag (writeAll .escaped children)))

def contentsAll : List Html → List Token
  | [] => []
  | node :: rest => node.contents ++ contentsAll rest

end

mutual

/-- Names are names, values stay in their quotes, and a content that is no markup goes on up to
the end of its element. -/
def Legible : Html → Prop
  | .text _ => True
  | .code _ => False
  | .void tag attributes =>
    isName tag = true ∧ contentOf tag = .markup ∧ ∀ a ∈ attributes, a.Readable .escaped
  | .element tag attributes children =>
    isName tag = true ∧ (∀ a ∈ attributes, a.Readable .escaped) ∧
      (if contentOf tag = .markup then LegibleAll children
      else '<' ∉ (writeAll .escaped children).toList)

def LegibleAll : List Html → Prop
  | [] => True
  | node :: rest => node.Legible ∧ LegibleAll rest

end

@[simp] theorem legibleAll_append {a b : List Html} :
    LegibleAll (a ++ b) ↔ LegibleAll a ∧ LegibleAll b := by
  induction a with
  | nil => simp [LegibleAll]
  | cons node rest ih => simp [LegibleAll, ih, and_assoc]

@[simp] theorem contentsAll_append (a b : List Html) :
    contentsAll (a ++ b) = contentsAll a ++ contentsAll b := by
  induction a with
  | nil => rfl
  | cons node rest ih => simp [contentsAll, ih]

/-- A reader meets the contents of a legible tree, whatever text stands in front of it. -/
theorem read_legible (f : Flow Token) {nodes : List Html} (h : LegibleAll nodes) :
    Text.read DocumentReader.step (reader f) (writeAll .escaped nodes) =
      some (reader ((contentsAll nodes).foldl Flow.take f)) := by
  induction nodes using Html.induction generalizing f with
  | nil => rfl
  | text s rest ih =>
      have htext : (Html.text s).write .escaped = Text.escapeHtml s := by
        simp [Html.write, EscapeMode.html]
      rw [writeAll, Text.read_append, htext, DocumentReader.read_text, Option.bind_some, ih _ h.2,
        contentsAll, contents, List.foldl_append, flow_run]
  | code s rest ih => exact absurd h.1 (by simp [Legible])
  | void tag attributes rest ih =>
      have hvoid := h.1
      rw [Legible] at hvoid
      obtain ⟨hname, hmarkup, hattributes⟩ := hvoid
      rw [writeAll, Html.write, Text.read_append,
        DocumentReader.read_startTag f hname hmarkup hattributes, Option.bind_some, ih _ h.2,
        contentsAll, contents]
      rfl
  | element tag attributes children rest ihChildren ihRest =>
      have helement := h.1
      rw [Legible] at helement
      obtain ⟨hname, hattributes, hchildren⟩ := helement
      have hread : Text.read DocumentReader.step (reader f)
          ((Html.element tag attributes children).write .escaped) =
            some (reader ((Html.element tag attributes children).contents.foldl Flow.take f)) := by
        rw [contents, Html.write]
        by_cases hmarkup : contentOf tag = .markup
        · rw [if_pos hmarkup] at hchildren ⊢
          have hend : startTag .escaped tag attributes ++ writeAll .escaped children ++ "</" ++
              tag ++ ">" = startTag .escaped tag attributes ++
                (writeAll .escaped children ++ ("</" ++ tag ++ ">")) := by
            simp only [String.append_assoc]
          rw [hend, Text.read_append, DocumentReader.read_startTag f hname hmarkup hattributes,
            Option.bind_some, Text.read_append, ihChildren _ hchildren, Option.bind_some,
            DocumentReader.read_endTag _ hname]
          simp [enclose]
        -- This content goes on to its end tag, so the children are not read one by one.
        · rw [if_neg hmarkup] at hchildren ⊢
          exact DocumentReader.read_contentElement f hname hmarkup hattributes hchildren
      rw [writeAll, Text.read_append, hread, Option.bind_some, ihRest _ h.2, contentsAll,
        List.foldl_append]

/-- A document is read as its contents, with adjacent texts as one. -/
theorem readDocument_of_legible {nodes : List Html} (h : LegibleAll nodes) :
    readDocument (doctype ++ writeAll .escaped nodes) = some (joinTexts (contentsAll nodes)) := by
  have hbegin : Text.read DocumentReader.step
      (.expecting doctype.toList (.markup [] (.text []))) doctype =
        some (reader ⟨[], ""⟩) :=
    DocumentReader.foldlM_expecting (by decide) _
  rw [readDocument, Text.read_append, hbegin, Option.bind_some, read_legible _ h]
  simp only [reader, String.ofList_toList, map_decoded_run, joinTexts, flow_tokens]

end StaticSite.Html
