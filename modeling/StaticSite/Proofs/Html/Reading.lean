import StaticSite.Proofs.Html.Rendering
import StaticSite.Proofs.Html.Tokenizer

/-!
# Reading written trees

A written tree reads as its tokens where names are names, no quoted value has a quote, no text
has a `<`, and no two texts stand next to each other, for these would read as one.
-/

namespace StaticSite

open Html

/-! ## Start tags -/

def Attribute.name : Attribute → String
  | .quoted name _ => name
  | .bare name => name
  | .code name _ => name

/-- The value of an attribute as it is written. -/
def Attribute.value? (mode : EscapeMode) : Attribute → Option String
  | .quoted _ value => some (mode.html value)
  | .bare _ => none
  | .code _ s => some s

def Attribute.pair (mode : EscapeMode) (a : Attribute) : String × Option String :=
  (a.name, a.value? mode)

structure Attribute.Readable (mode : EscapeMode) (a : Attribute) : Prop where
  name : isName a.name = true
  value : ∀ v ∈ a.value? mode, '"' ∉ v.toList

/-- A tokenizer behind the name or behind an attribute of a start tag. -/
structure Html.Tokenizer.Behind (t : Tokenizer) (done : List Token) (tag : OpenTag) : Prop where
  met : t.done = done
  blank : t.step ' ' = some ⟨done, .attributeName tag []⟩
  close : t.step '>' = some ⟨done ++ [.startTag tag.name tag.attributes], .text []⟩

theorem Html.Tokenizer.behind_startName (done : List Token) (name : String) :
    Tokenizer.Behind ⟨done, .startName name.toList⟩ done ⟨name, []⟩ := by
  constructor <;> simp [Tokenizer.step, Tokenizer.behind, isNameChar]

theorem Html.Tokenizer.behind_value (done : List Token) (tag : OpenTag) :
    Tokenizer.Behind ⟨done, .behindValue tag⟩ done tag := by
  constructor <;> simp [Tokenizer.step, Tokenizer.behind]

theorem Html.Tokenizer.behind_attributeName (done : List Token) (tag : OpenTag) {name : String}
    (hname : isName name = true) :
    Tokenizer.Behind ⟨done, .attributeName tag name.toList⟩ done (tag.add (name, none)) := by
  have hne := isName_ne_nil hname
  constructor <;> simp [Tokenizer.step, Tokenizer.behind, isNameChar, hne]

section Tags

variable {mode : EscapeMode} {t : Tokenizer} {done : List Token} {tag : OpenTag}

theorem Html.Tokenizer.Behind.read_name (h : t.Behind done tag) {name : String}
    (hname : isName name = true) :
    t.read (" " ++ name) = some ⟨done, .attributeName tag name.toList⟩ := by
  have hblank : t.read " " = some ⟨done, .attributeName tag []⟩ := by
    simp [Text.read, h.blank]
  rw [Tokenizer.read_append, hblank, Option.bind_some, Tokenizer.read_attributeName done tag hname]

theorem Html.Tokenizer.Behind.read_quoted (h : t.Behind done tag) {name value : String}
    (hname : isName name = true) (hvalue : '"' ∉ value.toList) :
    t.read (" " ++ name ++ "=\"" ++ value ++ "\"") =
      some ⟨done, .behindValue (tag.add (name, some value))⟩ := by
  have hequals : Tokenizer.read ⟨done, .attributeName tag name.toList⟩ "=\"" =
      some ⟨done, .value tag name []⟩ := by
    have hne := isName_ne_nil hname
    simp [Text.read, Tokenizer.step, isNameChar, hne]
  have hquote : Tokenizer.read ⟨done, .value tag name value.toList⟩ "\"" =
      some ⟨done, .behindValue (tag.add (name, some value))⟩ := by
    simp [Text.read, Tokenizer.step]
  rw [Tokenizer.read_append, Tokenizer.read_append, Tokenizer.read_append, h.read_name hname,
    Option.bind_some, hequals, Option.bind_some, Tokenizer.read_value done tag name hvalue,
    Option.bind_some, hquote]

theorem Html.Tokenizer.Behind.read_attribute (h : t.Behind done tag) {a : Attribute}
    (ha : a.Readable mode) :
    ∃ u, t.read (a.write mode) = some u ∧ u.Behind done (tag.add (a.pair mode)) := by
  obtain ⟨hname, hvalue⟩ := ha
  cases a with
  | quoted name value =>
      exact ⟨_, h.read_quoted hname (hvalue _ rfl), Tokenizer.behind_value _ _⟩
  | bare name => exact ⟨_, h.read_name hname, Tokenizer.behind_attributeName _ _ hname⟩
  | code name s =>
      exact ⟨_, h.read_quoted hname (hvalue _ rfl), Tokenizer.behind_value _ _⟩

theorem Html.Tokenizer.Behind.read_attributes (h : t.Behind done tag)
    {attributes : List Attribute} (hreadable : ∀ a ∈ attributes, a.Readable mode) :
    ∃ u, t.read (writeAttributes mode attributes) = some u ∧
      u.Behind done ⟨tag.name, tag.attributes ++ attributes.map (·.pair mode)⟩ := by
  induction attributes generalizing t tag with
  | nil => exact ⟨t, by simp [writeAttributes], by simpa using h⟩
  | cons a rest ih =>
      obtain ⟨u, hread, hu⟩ := h.read_attribute (hreadable a List.mem_cons_self)
      obtain ⟨v, hrest, hv⟩ := ih hu fun b hb => hreadable b (List.mem_cons_of_mem a hb)
      refine ⟨v, ?_, ?_⟩
      · have hsplit : writeAttributes mode (a :: rest) =
            a.write mode ++ writeAttributes mode rest := by
          simp [writeAttributes]
        rw [hsplit, Tokenizer.read_append, hread, Option.bind_some, hrest]
      · simpa [OpenTag.add] using hv

/-- The name and the attributes of a start tag. -/
theorem Html.Tokenizer.read_tagFront (done : List Token) {name : String}
    {attributes : List Attribute} (hname : isName name = true)
    (hreadable : ∀ a ∈ attributes, a.Readable mode) :
    ∃ u, Tokenizer.read ⟨done, .tag⟩ (name ++ writeAttributes mode attributes) = some u ∧
      u.Behind done ⟨name, attributes.map (·.pair mode)⟩ := by
  obtain ⟨u, hread, hu⟩ := (Tokenizer.behind_startName done name).read_attributes hreadable
  refine ⟨u, ?_, hu⟩
  rw [Tokenizer.read_append, Tokenizer.read_startName _ hname, Option.bind_some, hread]

theorem Html.Tokenizer.read_startTag (run : List Char) {name : String}
    {attributes : List Attribute} (hname : isName name = true)
    (hreadable : ∀ a ∈ attributes, a.Readable mode) :
    Tokenizer.read ⟨done, .text run⟩ (startTag mode name attributes) =
      some ⟨done ++ Token.run (String.ofList run) ++
        [.startTag name (attributes.map (·.pair mode))], .text []⟩ := by
  have hopen : Tokenizer.read ⟨done, .text run⟩ "<" =
      some ⟨done ++ Token.run (String.ofList run), .tag⟩ := by
    simp [Text.read, Tokenizer.step]
  obtain ⟨u, hread, hu⟩ := Tokenizer.read_tagFront (done ++ Token.run (String.ofList run)) hname
    hreadable
  have hclose : u.read ">" = u.step '>' := by
    simp [Text.read]
  have hsplit : startTag mode name attributes =
      "<" ++ (name ++ writeAttributes mode attributes) ++ ">" := by
    simp only [startTag, String.append_assoc]
  rw [hsplit, Tokenizer.read_append, Tokenizer.read_append, hopen, Option.bind_some, hread,
    Option.bind_some, hclose, hu.close]

theorem Html.Tokenizer.read_endTag (run : List Char) {name : String}
    (hname : isName name = true) :
    Tokenizer.read ⟨done, .text run⟩ ("</" ++ name ++ ">") =
      some ⟨done ++ Token.run (String.ofList run) ++ [.endTag name], .text []⟩ := by
  have hopen : Tokenizer.read ⟨done, .text run⟩ "</" =
      some ⟨done ++ Token.run (String.ofList run), .endName []⟩ := by
    simp [Text.read, Tokenizer.step]
  have hclose : Tokenizer.read
      ⟨done ++ Token.run (String.ofList run), .endName name.toList⟩ ">" =
        some ⟨done ++ Token.run (String.ofList run) ++ [.endTag name], .text []⟩ := by
    have hne := isName_ne_nil hname
    simp [Text.read, Tokenizer.step, isNameChar, hne]
  rw [Tokenizer.read_append, Tokenizer.read_append, hopen, Option.bind_some,
    Tokenizer.read_endName _ hname, Option.bind_some, hclose]

end Tags

/-! ## Trees -/

mutual

/-- The tokens of a tree, with its texts as they are written. -/
def Html.tokens (mode : EscapeMode) : Html → List Token
  | .text s => Token.run (mode.html s)
  | .code s => Token.run s
  | .void tag attributes => [.startTag tag (attributes.map (·.pair mode))]
  | .element tag attributes children =>
    .startTag tag (attributes.map (·.pair mode)) :: (tokensAll mode children ++ [.endTag tag])

def tokensAll (mode : EscapeMode) : List Html → List Token
  | [] => []
  | node :: rest => node.tokens mode ++ tokensAll mode rest

end

/-- A run of text before these siblings ends where they begin. -/
def StopsText (nodes : List Html) : Prop :=
  ∀ node ∈ nodes.head?, node.isTag = true

@[simp] theorem stopsText_nil : StopsText [] := by
  simp [StopsText]

@[simp] theorem stopsText_cons (node : Html) (rest : List Html) :
    StopsText (node :: rest) ↔ node.isTag = true := by
  simp [StopsText]

mutual

def Html.Readable (mode : EscapeMode) : Html → Prop
  | .text s => '<' ∉ (mode.html s).toList
  | .code s => '<' ∉ s.toList
  | .void tag attributes => isName tag = true ∧ ∀ a ∈ attributes, a.Readable mode
  | .element tag attributes children =>
    isName tag = true ∧ (∀ a ∈ attributes, a.Readable mode) ∧ ReadableAll mode children

def ReadableAll (mode : EscapeMode) : List Html → Prop
  | [] => True
  | node :: rest =>
    node.Readable mode ∧ (node.isTag = true ∨ StopsText rest) ∧ ReadableAll mode rest

end

/-- Behind a text the tokenizer still holds it; the end of the siblings decides what it is. -/
def Html.Reads (s : String) (run : List Char) (tokens : List Token) : Prop :=
  ∀ done, ∃ done' run', Tokenizer.read ⟨done, .text run⟩ s = some ⟨done', .text run'⟩ ∧
    done' ++ Token.run (String.ofList run') = done ++ Token.run (String.ofList run) ++ tokens

theorem Html.Readable.text_written {mode : EscapeMode} {node : Html}
    (hreadable : node.Readable mode) (htag : ¬node.isTag = true) :
    '<' ∉ (node.write mode).toList ∧ node.tokens mode = Token.run (node.write mode) := by
  cases node with
  | text s =>
      rw [Html.write, Html.tokens]
      exact ⟨hreadable, rfl⟩
  | code s =>
      rw [Html.write, Html.tokens]
      exact ⟨hreadable, rfl⟩
  | void tag attributes => exact absurd rfl htag
  | element tag attributes children => exact absurd rfl htag

mutual

theorem Html.read_tag (mode : EscapeMode) : (node : Html) → node.Readable mode →
    node.isTag = true → ∀ done run,
      Tokenizer.read ⟨done, .text run⟩ (node.write mode) =
        some ⟨done ++ Token.run (String.ofList run) ++ node.tokens mode, .text []⟩
  | .text _, _, htag => by simp [Html.isTag] at htag
  | .code _, _, htag => by simp [Html.isTag] at htag
  | .void tag attributes, hreadable, _ => by
      intro done run
      rw [Html.Readable] at hreadable
      rw [Html.write, Html.tokens, Tokenizer.read_startTag run hreadable.1 hreadable.2]
  | .element tag attributes children, hreadable, _ => by
      intro done run
      rw [Html.Readable] at hreadable
      obtain ⟨hname, hattributes, hchildren⟩ := hreadable
      obtain ⟨done', run', hread, hdone⟩ := reads_writeAll mode children hchildren [] (Or.inl rfl)
        (done ++ Token.run (String.ofList run) ++
          [.startTag tag (attributes.map (·.pair mode))])
      have hend : Tokenizer.read ⟨done', .text run'⟩ ("</" ++ tag ++ ">") = _ :=
        Tokenizer.read_endTag run' hname
      rw [hdone] at hend
      have hsplit : (Html.element tag attributes children).write mode =
          startTag mode tag attributes ++ (writeAll mode children ++ ("</" ++ tag ++ ">")) := by
        simp [Html.write, String.append_assoc]
      rw [hsplit, Tokenizer.read_append, Tokenizer.read_startTag run hname hattributes,
        Option.bind_some, Tokenizer.read_append, hread, Option.bind_some, hend, Html.tokens]
      simp [Token.run]

theorem Html.reads_writeAll (mode : EscapeMode) : (nodes : List Html) → ReadableAll mode nodes →
    ∀ run, run = [] ∨ StopsText nodes → Reads (writeAll mode nodes) run (tokensAll mode nodes)
  | [], _ => by
      intro run _ done
      exact ⟨done, run, by simp [writeAll], by simp [tokensAll]⟩
  | node :: rest, hreadable => by
      intro run hrun done
      rw [ReadableAll] at hreadable
      obtain ⟨hnode, hnext, hrest⟩ := hreadable
      by_cases htag : node.isTag = true
      · have hread := Html.read_tag mode node hnode htag done run
        obtain ⟨done', run', hothers, hdone⟩ := reads_writeAll mode rest hrest [] (Or.inl rfl)
          (done ++ Token.run (String.ofList run) ++ node.tokens mode)
        refine ⟨done', run', ?_, ?_⟩
        · rw [writeAll, Tokenizer.read_append, hread, Option.bind_some, hothers]
        · simpa [tokensAll, Token.run] using hdone
      · obtain ⟨hwritten, htokens⟩ := hnode.text_written htag
        have hnil : run = [] := by
          rcases hrun with hnil | hstops
          · exact hnil
          · exact absurd (hstops node rfl) htag
        obtain ⟨done', run', hothers, hdone⟩ := reads_writeAll mode rest hrest
          (node.write mode).toList (Or.inr (hnext.resolve_left htag)) done
        refine ⟨done', run', ?_, ?_⟩
        · rw [writeAll, Tokenizer.read_append, hnil, Tokenizer.read_text done [] hwritten,
            Option.bind_some, List.nil_append, hothers]
        · simpa [hnil, tokensAll, Token.run, htokens] using hdone

end

/-- A written tree reads as its tokens. -/
theorem Html.tokenize_writeAll {mode : EscapeMode} {nodes : List Html}
    (hreadable : ReadableAll mode nodes) :
    tokenize (writeAll mode nodes) = some (tokensAll mode nodes) := by
  obtain ⟨done, run, hread, hdone⟩ := reads_writeAll mode nodes hreadable [] (Or.inl rfl) []
  rw [tokenize, hread]
  simpa [Token.run] using hdone

end StaticSite
