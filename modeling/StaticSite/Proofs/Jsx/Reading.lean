import Mathlib.Data.List.Chain
import StaticSite.Jsx.PageModule
import StaticSite.Proofs.Jsx.Reader

/-!
# Reading written JSX

A reader of a written tree meets its contents if no text has a brace, and only then. Braces in
values are no harm, and neither is what stands in a comment as long as nothing ends the comment.
-/

namespace StaticSite.Jsx

open Text (Flow ofText textRun textChars joinTexts)

/-! ## Flows of tokens -/

/-- A reader that has met these tokens, and a text that was escaped. -/
def reader (f : Flow Token) : Reader :=
  .markup f.met (.text (Text.escapeHtml f.rest).toList)

section Flow

variable (f : Flow Token)

@[simp] theorem flow_text (s : String) : f.take (.markup (.text s)) = ⟨f.met, f.rest ++ s⟩ := rfl

@[simp] theorem flow_startTag (name : String) (attributes : List (String × Option String)) :
    f.take (.startTag name attributes) =
      ⟨f.met ++ textRun f.rest ++ [.startTag name attributes], ""⟩ := rfl

@[simp] theorem flow_endTag (name : String) :
    f.take (.endTag name) = ⟨f.met ++ textRun f.rest ++ [.endTag name], ""⟩ := rfl

@[simp] theorem flow_container (code : String) :
    f.take (.container code) = ⟨f.met ++ textRun f.rest ++ [.container code], ""⟩ := rfl

end Flow

theorem map_decoded_run (s : String) :
    (Html.Token.run (Text.escapeHtml s)).map (fun token => Token.markup token.decoded) =
      textRun s := by
  have hmap := congrArg (List.map Token.markup) (Html.Token.map_decoded_run s)
  rw [List.map_map] at hmap
  refine hmap.trans ?_
  unfold Html.Token.run textRun
  split <;> rfl

/-! ## Tags -/

namespace Reader

variable (met : List Token) {within last : Html.Within}

theorem step_of_tokenizer (hwithin : within.isText = false) {c : Char} {t : Html.Tokenizer}
    (hstep : Html.Tokenizer.step ⟨[], within⟩ c = some t) :
    step (.markup met within) c = some (behind met t) := by
  cases within with
  | text chars => simp [Html.Within.isText] at hwithin
  | attributeName tag name =>
      cases name with
      | nil =>
          have hslash : c ≠ '/' := by
            rintro rfl
            simp [Html.Tokenizer.step, Html.isNameChar] at hstep
          rw [step, if_neg hslash, hstep, Option.map_some]
      | cons d name => exact congrArg (Option.map (behind met)) hstep
  | _ => exact congrArg (Option.map (behind met)) hstep

/-- As long as it meets no token, the reader is the tokenizer. -/
theorem foldlM_tag {cs : List Char} (hwithin : within.isText = false)
    (hread : cs.foldlM Html.Tokenizer.step ⟨[], within⟩ = some ⟨[], last⟩) :
    cs.foldlM step (.markup met within) = some (.markup met last) ∧ last.isText = false := by
  induction cs generalizing within with
  | nil =>
      simp only [List.foldlM_nil, Option.pure_def, Option.some.injEq, Html.Tokenizer.mk.injEq,
        true_and] at hread
      subst hread
      exact ⟨rfl, hwithin⟩
  | cons c rest ih =>
      obtain ⟨first, next, others, hstep, hrest, htokens⟩ := Html.Tokenizer.foldlM_cons hread
      obtain ⟨rfl, rfl⟩ := List.append_eq_nil_iff.mp htokens.symm
      obtain ⟨_, _, hnext⟩ := tokenizer_step_tag hwithin hstep
      obtain ⟨hothers, hlast⟩ := ih (hnext rfl) hrest
      refine ⟨?_, hlast⟩
      rw [List.foldlM_cons, step_of_tokenizer met hwithin hstep, Option.bind_eq_bind,
        Option.bind_some]
      simpa [behind] using hothers

end Reader

/-! ## Attributes -/

def Attribute.toHtml : Attribute → StaticSite.Attribute
  | .quoted name value => .quoted name value
  | .handler name code => .code name code

def Attribute.pair (a : Attribute) : String × Option String :=
  a.toHtml.pair .escaped

/-- The name and the value that a reader gets. -/
def Attribute.meaning (a : Attribute) : String × Option String :=
  a.toHtml.meaning

def Attribute.Legible : Attribute → Prop
  | .quoted name _ => Html.isName name = true
  | .handler _ _ => False

theorem Attribute.Legible.write {a : Attribute} (h : a.Legible) :
    a.write .escaped = a.toHtml.write .escaped := by
  cases a with
  | quoted name value => rfl
  | handler name code => exact absurd h id

theorem Attribute.Legible.readable {a : Attribute} (h : a.Legible) :
    a.toHtml.Readable .escaped := by
  cases a with
  | quoted name value => exact Html.readable_quoted h value
  | handler name code => exact absurd h id

theorem writeAttributes_of_legible {attributes : List Attribute} (h : ∀ a ∈ attributes, a.Legible) :
    writeAttributes .escaped attributes =
      StaticSite.writeAttributes .escaped (attributes.map (·.toHtml)) := by
  have hwrite : attributes.map (Attribute.write .escaped) =
      attributes.map fun a => a.toHtml.write .escaped :=
    List.map_congr_left fun a ha => (h a ha).write
  simp [writeAttributes, StaticSite.writeAttributes, hwrite, Function.comp_def]

theorem decoded_startTag (name : String) (attributes : List Attribute) :
    Token.markup (Html.Token.startTag name (attributes.map (·.pair))).decoded =
      Token.startTag name (attributes.map (·.meaning)) := by
  have hdecoded := Html.Token.decoded_startTag name (attributes.map (·.toHtml))
  rw [List.map_map, List.map_map] at hdecoded
  exact congrArg Token.markup hdecoded

theorem decoded_endTag (name : String) :
    Token.markup (Html.Token.endTag name).decoded = Token.endTag name := rfl

/-! ## Comments -/

/-- No slash stands behind a star, so no comment ends here. -/
def StaysComment (cs : List Char) : Prop :=
  cs.IsChain fun a b => a = '*' → b ≠ '/'

theorem staysComment_append {a b : List Char} (ha : StaysComment a) (hb : StaysComment b)
    (hslash : b.head? ≠ some '/') : StaysComment (a ++ b) := by
  refine List.isChain_append.mpr ⟨ha, hb, ?_⟩
  rintro x - y hy - rfl
  exact hslash hy

theorem head?_commentSafe (cs : List Char) : (commentSafe cs).head? = cs.head? := by
  unfold commentSafe
  split <;> rfl

theorem staysComment_commentSafe (cs : List Char) : StaysComment (commentSafe cs) := by
  induction cs using commentSafe.induct with
  | case1 => exact List.isChain_nil
  | case2 rest ih =>
      rw [commentSafe]
      simpa [StaysComment, List.isChain_cons] using ih
  | case3 c rest hends ih =>
      rw [commentSafe.eq_3 c rest hends]
      refine List.isChain_cons.mpr ⟨?_, ih⟩
      rintro d hd hstar rfl
      rw [head?_commentSafe, Option.mem_def, List.head?_eq_some_iff] at hd
      obtain ⟨others, hrest⟩ := hd
      exact hends others hstar hrest

namespace Reader

variable (met : List Token) (depth : Nat)

theorem step_comment {code : List Char} {p c : Char} (h : p = '*' → c ≠ '/') :
    step (.container met code depth (.behind p)) c =
      some (.container met (code ++ [c]) depth (.behind c)) := by
  unfold CodeWithin.behind
  split
  · next hstar => simp [step, h hstar, CodeWithin.behind]
  · rfl

/-- A comment goes on, and what counts behind it is its last character. -/
theorem foldlM_comment {p c : Char} {cs : List Char} (h : StaysComment (p :: (cs ++ [c])))
    (code : List Char) :
    (cs ++ [c]).foldlM step (.container met code depth (.behind p)) =
      some (.container met (code ++ (cs ++ [c])) depth (.behind c)) := by
  -- The state of the reader is the character before, so the induction is for every `p`.
  induction cs generalizing p code with
  | nil =>
      have hstep : p = '*' → c ≠ '/' := by simpa [StaysComment] using h
      simp [step_comment met depth hstep]
  | cons d rest ih =>
      obtain ⟨hstep, hrest⟩ := List.isChain_cons_cons.mp h
      rw [List.cons_append, List.foldlM_cons, step_comment met depth hstep, Option.bind_eq_bind,
        Option.bind_some, ih hrest]
      simp

end Reader

/-! ## Parts of an element -/

namespace Reader

variable (f : Flow Token) {name : String} {attributes : List Attribute}

theorem read_text {s : String} (hs : BraceFree s.toList) :
    Text.read step (reader f) (Text.escapeHtml s) = some (reader (f.take (.markup (.text s)))) := by
  have hstep : ∀ chars c, (c ≠ '<' ∧ c ≠ '>') ∧ c ≠ '\x7b' ∧ c ≠ '\x7d' →
      step (.markup f.met (.text chars)) c = some (.markup f.met (.text (chars ++ [c]))) := by
    rintro chars c ⟨⟨hopen, hclose⟩, hbrace, hend⟩
    simp [step, Html.Tokenizer.step, hopen, hclose, hbrace, hend, behind]
  have hchars : ∀ c ∈ (Text.escapeHtml s).toList,
      (c ≠ '<' ∧ c ≠ '>') ∧ c ≠ '\x7b' ∧ c ≠ '\x7d' := by
    intro c hc
    obtain ⟨hopen, hclose, _⟩ := Text.escapeHtml_closed hc
    exact ⟨⟨hopen, hclose⟩, braceFree_escapeHtml hs c hc⟩
  have hread := Text.read_gather (g := fun chars => markup f.met (.text chars)) hstep
    (Text.escapeHtml f.rest).toList hchars
  rw [reader, hread, flow_text, reader]
  simp [Text.escapeHtml_append]

theorem read_open : Text.read step (reader f) "<" =
    some (.markup (f.met ++ textRun f.rest) .tag) := by
  simp [Text.read, reader, step, Html.Tokenizer.step, behind, map_decoded_run]

theorem read_front (hname : Html.isName name = true) (hattributes : ∀ a ∈ attributes, a.Legible) :
    ∃ within, Text.read step (reader f) ("<" ++ name ++ writeAttributes .escaped attributes) =
        some (.markup (f.met ++ textRun f.rest) within) ∧ within.isText = false ∧
      Html.Tokenizer.Behind ⟨[], within⟩ [] ⟨name, attributes.map (·.pair)⟩ := by
  have hreadable : ∀ a ∈ attributes.map (·.toHtml), a.Readable .escaped := by
    simpa using fun a ha => (hattributes a ha).readable
  obtain ⟨⟨tokens, within⟩, hread, hbehind⟩ := Html.Tokenizer.read_tagFront [] hname hreadable
  rw [List.map_map] at hbehind
  obtain rfl : tokens = [] := hbehind.met
  obtain ⟨htag, hwithin⟩ := foldlM_tag (f.met ++ textRun f.rest) rfl hread
  refine ⟨within, ?_, hwithin, hbehind⟩
  rw [String.append_assoc, Text.read_append, read_open, Option.bind_some,
    writeAttributes_of_legible hattributes]
  exact htag

theorem read_startTag (hname : Html.isName name = true)
    (hattributes : ∀ a ∈ attributes, a.Legible) :
    Text.read step (reader f) ("<" ++ name ++ writeAttributes .escaped attributes ++ ">") =
      some (reader (f.take (.startTag name (attributes.map (·.meaning))))) := by
  obtain ⟨within, hread, hwithin, hbehind⟩ := read_front f hname hattributes
  have hclose := step_of_tokenizer (f.met ++ textRun f.rest) hwithin hbehind.close
  rw [Text.read_append, hread, Option.bind_some]
  simp [Text.read, hclose, behind, decoded_startTag, reader]

theorem read_selfClosing (hname : Html.isName name = true)
    (hattributes : ∀ a ∈ attributes, a.Legible) :
    Text.read step (reader f) ("<" ++ name ++ writeAttributes .escaped attributes ++ " />") =
      some (reader
        ((f.take (.startTag name (attributes.map (·.meaning)))).take (.endTag name))) := by
  obtain ⟨within, hread, hwithin, hbehind⟩ := read_front f hname hattributes
  have hblank : Text.read step (.markup (f.met ++ textRun f.rest) within) " " =
      some (.markup (f.met ++ textRun f.rest)
        (.attributeName ⟨name, attributes.map (·.pair)⟩ [])) := by
    simp [Text.read, step_of_tokenizer _ hwithin hbehind.blank, behind]
  have hslash (tag : Html.OpenTag) : Text.read step
      (.markup (f.met ++ textRun f.rest) (.attributeName tag [])) "/>" =
        some (behind (f.met ++ textRun f.rest)
          ⟨[.startTag tag.name tag.attributes, .endTag tag.name], .text []⟩) := rfl
  have hempty : (textRun "" : List Token) = [] := rfl
  have hsplit : " />" = " " ++ "/>" := rfl
  rw [Text.read_append, hread, Option.bind_some, hsplit, Text.read_append, hblank, Option.bind_some,
    hslash]
  simp [behind, reader, decoded_startTag, decoded_endTag, hempty]

theorem read_endTag (hname : Html.isName name = true) :
    Text.read step (reader f) ("</" ++ name ++ ">") =
      some (reader (f.take (.endTag name))) := by
  have hfront : Html.Tokenizer.read ⟨[], .tag⟩ ("/" ++ name) = some ⟨[], .endName name.toList⟩ := by
    have hslash : Html.Tokenizer.read ⟨[], .tag⟩ "/" = some ⟨[], .endName []⟩ := by
      simp [Text.read, Html.Tokenizer.step]
    rw [Html.Tokenizer.read_append, hslash, Option.bind_some, Html.Tokenizer.read_endName [] hname]
  obtain ⟨htag, hwithin⟩ := foldlM_tag (f.met ++ textRun f.rest) rfl hfront
  have hclose : Html.Tokenizer.step ⟨[], .endName name.toList⟩ '>' =
      some ⟨[.endTag name], .text []⟩ := by
    have hne := Html.isName_ne_nil hname
    simp [Html.Tokenizer.step, Html.isNameChar, hne]
  have hsplit : "</" ++ name ++ ">" = "<" ++ ("/" ++ name) ++ ">" := by
    rw [← String.append_assoc]
    rfl
  rw [hsplit, Text.read_append, Text.read_append, read_open, Option.bind_some, Text.read, htag,
    Option.bind_some]
  simp [Text.read, step_of_tokenizer _ hwithin hclose, behind, reader, decoded_endTag]

theorem read_comment {s : String} (hs : StaysComment s.toList) :
    Text.read step (reader f) ("\x7b/* " ++ s ++ " */\x7d") =
      some (reader (f.take (.container ("/* " ++ s ++ " */")))) := by
  have hopen : Text.read step (reader f) "\x7b/*" =
      some (.container (f.met ++ textRun f.rest) ['/', '*'] 0 (.behind ' ')) := by
    simp [Text.read, reader, step, CodeWithin.behind]
  have hstays : StaysComment (' ' :: ((" " ++ s ++ " ").toList ++ ['*'])) := by
    have hend : StaysComment [' ', '*'] := by simp [StaysComment]
    have hfront : StaysComment (s.toList ++ [' ', '*']) := staysComment_append hs hend (by simp)
    simpa [StaysComment, List.isChain_cons] using hfront
  have hcomment := foldlM_comment (f.met ++ textRun f.rest) 0 hstays ['/', '*']
  have hclose (code : List Char) : Text.read step
      (.container (f.met ++ textRun f.rest) code 0 (.behind '*')) "/\x7d" =
        some (reader (f.take (.container (String.ofList (code ++ ['/']))))) := by
    simp [Text.read, step, CodeWithin.behind, behindBrace, reader]
  have hcode : String.ofList (['/', '*'] ++ ((" " ++ s ++ " ").toList ++ ['*']) ++ ['/']) =
      "/* " ++ s ++ " */" := by
    rw [← String.toList_inj]
    simp
  have hsplit : "\x7b/* " ++ s ++ " */\x7d" =
      "\x7b/*" ++ String.ofList ((" " ++ s ++ " ").toList ++ ['*']) ++ "/\x7d" := by
    rw [← String.toList_inj]
    simp
  rw [hsplit, Text.read_append, Text.read_append, hopen, Option.bind_some, Text.read,
    String.toList_ofList, hcomment, Option.bind_some, hclose, hcode]

end Reader

/-! ## Trees -/

@[elab_as_elim]
theorem induction {motive : List Jsx → Prop} (nil : motive [])
    (text : ∀ s rest, motive rest → motive (.text s :: rest))
    (comment : ∀ s rest, motive rest → motive (.comment s :: rest))
    (selfClosing : ∀ tag attributes rest, motive rest →
      motive (.selfClosing tag attributes :: rest))
    (element : ∀ tag attributes children rest, motive children → motive rest →
      motive (.element tag attributes children :: rest)) :
    (nodes : List Jsx) → motive nodes
  | [] => nil
  | .text s :: rest => text s rest (induction nil text comment selfClosing element rest)
  | .comment s :: rest => comment s rest (induction nil text comment selfClosing element rest)
  | .selfClosing tag attributes :: rest =>
      selfClosing tag attributes rest (induction nil text comment selfClosing element rest)
  | .element tag attributes children :: rest =>
      element tag attributes children rest
        (induction nil text comment selfClosing element children)
        (induction nil text comment selfClosing element rest)

mutual

/-- What a reader of an element meets in a tree. -/
def contents : Jsx → List Token
  | .text s => textRun s
  | .comment s => [.container ("/* " ++ s ++ " */")]
  | .selfClosing tag attributes => [.startTag tag (attributes.map (·.meaning)), .endTag tag]
  | .element tag attributes children =>
    Token.enclose tag (attributes.map (·.meaning)) (contentsAll children)

def contentsAll : List Jsx → List Token
  | [] => []
  | node :: rest => node.contents ++ contentsAll rest

end

mutual

/-- Names are names, no attribute has code, and nothing ends a comment. -/
def Legible : Jsx → Prop
  | .text _ => True
  | .comment s => StaysComment s.toList
  | .selfClosing tag attributes => Html.isName tag = true ∧ ∀ a ∈ attributes, a.Legible
  | .element tag attributes children =>
    Html.isName tag = true ∧ (∀ a ∈ attributes, a.Legible) ∧ LegibleAll children

def LegibleAll : List Jsx → Prop
  | [] => True
  | node :: rest => node.Legible ∧ LegibleAll rest

end

theorem contentsAll_append (a b : List Jsx) :
    contentsAll (a ++ b) = contentsAll a ++ contentsAll b := by
  induction a with
  | nil => rfl
  | cons node rest ih => simp [contentsAll, ih]

theorem legibleAll_append {a b : List Jsx} :
    LegibleAll (a ++ b) ↔ LegibleAll a ∧ LegibleAll b := by
  induction a with
  | nil => simp [LegibleAll]
  | cons node rest ih => simp [LegibleAll, ih, and_assoc]

/-- A reader meets the contents of a legible tree whose texts have no braces. -/
theorem read_legible (f : Flow Token) {nodes : List Jsx} (h : LegibleAll nodes)
    (hbraces : BraceFree ((contentsAll nodes).flatMap textChars)) :
    Text.read Reader.step (reader f) (writeAll .escaped nodes) =
      some (reader ((contentsAll nodes).foldl Flow.take f)) := by
  induction nodes using Jsx.induction generalizing f with
  | nil => rfl
  | text s rest ih =>
      rw [contentsAll, contents, List.flatMap_append, braceFree_append, Text.flatMap_textRun]
        at hbraces
      rw [writeAll, Jsx.write, EscapeMode.html, Text.read_append, Reader.read_text f hbraces.1,
        Option.bind_some, ih _ h.2 hbraces.2, contentsAll, contents, List.foldl_append,
        Flow.foldl_textRun]
      rfl
  | comment s rest ih =>
      have hcomment := h.1
      rw [Legible] at hcomment
      rw [contentsAll, List.flatMap_append, braceFree_append] at hbraces
      rw [writeAll, Jsx.write, Text.read_append, Reader.read_comment f hcomment, Option.bind_some,
        ih _ h.2 hbraces.2, contentsAll, contents]
      rfl
  | selfClosing tag attributes rest ih =>
      have htag := h.1
      rw [Legible] at htag
      obtain ⟨hname, hattributes⟩ := htag
      rw [contentsAll, List.flatMap_append, braceFree_append] at hbraces
      rw [writeAll, Jsx.write, Text.read_append, Reader.read_selfClosing f hname hattributes,
        Option.bind_some, ih _ h.2 hbraces.2, contentsAll, contents]
      rfl
  | element tag attributes children rest ihChildren ihRest =>
      have helement := h.1
      rw [Legible] at helement
      obtain ⟨hname, hattributes, hchildren⟩ := helement
      rw [contentsAll, List.flatMap_append, braceFree_append, contents, Token.enclose] at hbraces
      have hinner : BraceFree ((contentsAll children).flatMap textChars) := by
        have houter := hbraces.1
        rw [List.flatMap_cons, List.flatMap_append, braceFree_append, braceFree_append] at houter
        exact houter.2.1
      have hsplit : (Jsx.element tag attributes children).write .escaped =
          ("<" ++ tag ++ writeAttributes .escaped attributes ++ ">") ++
            (writeAll .escaped children ++ ("</" ++ tag ++ ">")) := by
        simp only [Jsx.write, String.append_assoc]
      rw [writeAll, hsplit, Text.read_append, Text.read_append,
        Reader.read_startTag f hname hattributes, Option.bind_some, Text.read_append,
        ihChildren _ hchildren hinner, Option.bind_some, Reader.read_endTag _ hname,
        Option.bind_some, ihRest _ h.2 hbraces.2, contentsAll, contents, Token.enclose]
      simp

/-- An element is read as its contents if no text in it has a brace, and only then. -/
theorem readElement_iff {nodes : List Jsx} (h : LegibleAll nodes) :
    readElement (writeAll .escaped nodes) = some (joinTexts (contentsAll nodes)) ↔
      BraceFree ((contentsAll nodes).flatMap textChars) := by
  constructor
  -- No text that is met has a brace, and joining texts keeps their characters.
  · intro hread
    have hbraces := braceFree_of_read hread
    rwa [Text.textChars_joinTexts] at hbraces
  · intro hbraces
    have hread := read_legible ⟨[], ""⟩ h hbraces
    have hstart : Reader.markup [] (.text []) = reader ⟨[], ""⟩ := by
      simp [reader]
    rw [readElement, hstart, hread]
    simp [reader, joinTexts, Flow.tokens]

end StaticSite.Jsx
