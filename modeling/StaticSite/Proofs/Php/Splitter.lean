import StaticSite.Proofs.Text.Machine
import StaticSite.Proofs.Site.Inlining

/-!
# Splitting PHP documents

A splitter goes through a document character by character and tells what is inline from blocks of
PHP. A block begins with `<?` and ends with the first `?>` outside a literal, also in a comment; a
line break right behind it belongs to the block. In a block the splitter knows code, comments up to
the end of the line, and literals in single quotes, whose escapes it decodes. It fails where a block
has another kind of literal or comment, so that it never has to guess.
-/

namespace StaticSite.Php

open Text

inductive Piece
  | code (s : String)
  | comment (s : String)
  | literal (value : String)
  deriving DecidableEq

inductive Part
  | inline (s : String)
  | block (pieces : List Piece)
  deriving DecidableEq

/-- Code between other pieces; there is none without characters. -/
def Piece.codeRun (chars : List Char) : List Piece :=
  if chars.isEmpty then [] else [.code (String.ofList chars)]

def Part.inlineRun (chars : List Char) : List Part :=
  if chars.isEmpty then [] else [.inline (String.ofList chars)]

theorem Piece.codeRun_toList {s : String} (hs : s ≠ "") : codeRun s.toList = [.code s] := by
  simp [codeRun, hs]

theorem Part.inlineRun_toList {s : String} {c : Char} (hhead : s.toList.head? = some c) :
    inlineRun s.toList = [.inline s] := by
  have hempty : s ≠ "" := by
    rintro rfl
    simp at hhead
  simp [inlineRun, hempty]

/-- What a splitter is in the middle of, with the pieces of the block so far. -/
inductive Within
  | inline (chars : List Char)
  | inlineAngle (chars : List Char)
  | behindBlock
  | code (pieces : List Piece) (chars : List Char)
  | codeQuestion (pieces : List Piece) (chars : List Char)
  | codeSlash (pieces : List Piece) (chars : List Char)
  | comment (pieces : List Piece) (chars : List Char)
  | commentQuestion (pieces : List Piece) (chars : List Char)
  | literal (pieces : List Piece) (value : List Char)
  | literalEscape (pieces : List Piece) (value : List Char)

structure Splitter where
  done : List Part
  within : Within

namespace Splitter

def inInline (done : List Part) (chars : List Char) (c : Char) : Splitter :=
  if c = '<' then ⟨done, .inlineAngle chars⟩ else ⟨done, .inline (chars ++ [c])⟩

def inCode (done : List Part) (pieces : List Piece) (chars : List Char) (c : Char) :
    Option Splitter :=
  if c = '\'' then some ⟨done, .literal (pieces ++ Piece.codeRun chars) []⟩
  else if c = '?' then some ⟨done, .codeQuestion pieces chars⟩
  else if c = '/' then some ⟨done, .codeSlash pieces chars⟩
  else if c ∈ ['"', '`', '#', '<'] then none
  else some ⟨done, .code pieces (chars ++ [c])⟩

def inComment (done : List Part) (pieces : List Piece) (chars : List Char) (c : Char) : Splitter :=
  if c = '\n' ∨ c = '\r' then
    ⟨done, .code (pieces ++ [.comment (String.ofList chars)]) [c]⟩
  else if c = '?' then ⟨done, .commentQuestion pieces chars⟩
  else ⟨done, .comment pieces (chars ++ [c])⟩

def step : Splitter → Char → Option Splitter
  | ⟨done, .inline chars⟩, c => some (inInline done chars c)
  | ⟨done, .inlineAngle chars⟩, c =>
    if c = '?' then some ⟨done ++ Part.inlineRun chars, .code [] []⟩
    else some (inInline done (chars ++ ['<']) c)
  | ⟨done, .behindBlock⟩, c =>
    if c = '\n' then some ⟨done, .inline []⟩
    else if c = '\r' then none
    else some (inInline done [] c)
  | ⟨done, .code pieces chars⟩, c => inCode done pieces chars c
  | ⟨done, .codeQuestion pieces chars⟩, c =>
    if c = '>' then some ⟨done ++ [.block (pieces ++ Piece.codeRun chars)], .behindBlock⟩
    else inCode done pieces (chars ++ ['?']) c
  | ⟨done, .codeSlash pieces chars⟩, c =>
    if c = '/' then some ⟨done, .comment (pieces ++ Piece.codeRun chars) []⟩
    else if c = '*' then none
    else inCode done pieces (chars ++ ['/']) c
  | ⟨done, .comment pieces chars⟩, c => some (inComment done pieces chars c)
  | ⟨done, .commentQuestion pieces chars⟩, c =>
    if c = '>' then
      some ⟨done ++ [.block (pieces ++ [.comment (String.ofList chars)])], .behindBlock⟩
    else some (inComment done pieces (chars ++ ['?']) c)
  | ⟨done, .literal pieces value⟩, c =>
    if c = '\'' then some ⟨done, .code (pieces ++ [.literal (String.ofList value)]) []⟩
    else if c = '\\' then some ⟨done, .literalEscape pieces value⟩
    else some ⟨done, .literal pieces (value ++ [c])⟩
  | ⟨done, .literalEscape pieces value⟩, c =>
    if c = '\\' ∨ c = '\'' then some ⟨done, .literal pieces (value ++ [c])⟩
    else some ⟨done, .literal pieces (value ++ ['\\', c])⟩

end Splitter

/-- The parts of a document that ends outside all blocks. -/
def split (s : String) : Option (List Part) :=
  match Text.read Splitter.step ⟨[], .inline []⟩ s with
  | some ⟨done, .inline chars⟩ => some (done ++ Part.inlineRun chars)
  | _ => none

namespace Splitter

variable (done : List Part) (pieces : List Piece)

/-! ## Blocks -/

theorem read_open (chars : List Char) :
    Text.read step ⟨done, .inline chars⟩ "<?" =
      some ⟨done ++ Part.inlineRun chars, .code [] []⟩ := by
  simp [Text.read, step, inInline]

theorem read_close (chars : List Char) :
    Text.read step ⟨done, .code pieces chars⟩ "?>" =
      some ⟨done ++ [.block (pieces ++ Piece.codeRun chars)], .behindBlock⟩ := by
  simp [Text.read, step, inCode]

/-- A character of code that begins nothing else. -/
def isPlain (c : Char) : Bool :=
  c ∉ ['\'', '?', '/', '"', '`', '#', '<']

theorem read_code (chars : List Char) {s : String} (hs : s.toList.all isPlain = true) :
    Text.read step ⟨done, .code pieces chars⟩ s =
      some ⟨done, .code pieces (chars ++ s.toList)⟩ := by
  have hstep : ∀ chars c, isPlain c = true →
      step ⟨done, .code pieces chars⟩ c = some ⟨done, .code pieces (chars ++ [c])⟩ := by
    intro chars c hc
    simp only [isPlain, List.mem_cons, not_or, decide_eq_true_eq] at hc
    simp [step, inCode, hc]
  exact Text.read_gather (g := fun chars => Splitter.mk done (.code pieces chars)) hstep chars
    (List.all_eq_true.mp hs)

theorem read_comment (chars : List Char) {s : String} (hs : s.toList.all isPlain = true)
    (hline : '\n' ∉ s.toList ∧ '\r' ∉ s.toList) :
    Text.read step ⟨done, .code pieces chars⟩ ("//" ++ s ++ "\n") =
      some ⟨done, .code (pieces ++ Piece.codeRun chars ++ [.comment s]) ['\n']⟩ := by
  have hopen : Text.read step ⟨done, .code pieces chars⟩ "//" =
      some ⟨done, .comment (pieces ++ Piece.codeRun chars) []⟩ := by
    simp [Text.read, step, inCode]
  have hstep : ∀ text c, (isPlain c = true ∧ c ≠ '\n' ∧ c ≠ '\r') →
      step ⟨done, .comment (pieces ++ Piece.codeRun chars) text⟩ c =
        some ⟨done, .comment (pieces ++ Piece.codeRun chars) (text ++ [c])⟩ := by
    intro text c hc
    obtain ⟨hplain, hbreak, hreturn⟩ := hc
    simp only [isPlain, List.mem_cons, not_or, decide_eq_true_eq] at hplain
    simp [step, inComment, hbreak, hreturn, hplain]
  have htext := Text.read_gather
    (g := fun text => Splitter.mk done (.comment (pieces ++ Piece.codeRun chars) text)) hstep []
    (s := s) fun c hc => ⟨List.all_eq_true.mp hs c hc, fun h => hline.1 (h ▸ hc),
      fun h => hline.2 (h ▸ hc)⟩
  rw [Text.read_append, Text.read_append, hopen, Option.bind_some, htext, Option.bind_some]
  simp [Text.read, step, inComment]

/-- The literal for a text has the text as its value. -/
theorem read_literal (chars : List Char) (s : String) :
    Text.read step ⟨done, .code pieces chars⟩ (phpLiteral s) =
      some ⟨done, .code (pieces ++ Piece.codeRun chars ++ [.literal s]) []⟩ := by
  have hopen : Text.read step ⟨done, .code pieces chars⟩ "'" =
      some ⟨done, .literal (pieces ++ Piece.codeRun chars) []⟩ := by
    simp [Text.read, step, inCode]
  have hstep : ∀ value c, True → (phpChar c).foldlM step
      ⟨done, .literal (pieces ++ Piece.codeRun chars) value⟩ =
        some ⟨done, .literal (pieces ++ Piece.codeRun chars) (value ++ [c])⟩ := by
    intro value c _
    unfold phpChar
    split
    · rfl
    · rfl
    · next hback hquote =>
        rw [List.foldlM_cons, step, if_neg hquote, if_neg hback]
        rfl
  have hvalue := Text.read_escaped
    (g := fun value => Splitter.mk done (.literal (pieces ++ Piece.codeRun chars) value)) hstep []
    (s := s) fun _ _ => trivial
  rw [phpLiteral, Text.read_append, Text.read_append, hopen, Option.bind_some, hvalue,
    Option.bind_some]
  simp [Text.read, step]

end Splitter

/-! ## Inline texts -/

/-- A text that begins no block, nor ends in the middle of where one could begin. -/
def StaysInline (s : String) : Prop :=
  ∀ done chars, Text.read Splitter.step ⟨done, .inline chars⟩ s =
    some ⟨done, .inline (chars ++ s.toList)⟩

theorem staysInline_append {a b : String} (ha : StaysInline a) (hb : StaysInline b) :
    StaysInline (a ++ b) := by
  intro done chars
  rw [Text.read_append, ha, Option.bind_some, hb, String.toList_append, List.append_assoc]

theorem staysInline_of_angleFree {s : String} (h : AngleFree s) : StaysInline s := by
  intro done chars
  have hstep : ∀ chars c, c ≠ '<' →
      Splitter.step ⟨done, .inline chars⟩ c = some ⟨done, .inline (chars ++ [c])⟩ := by
    intro chars c hc
    rw [Splitter.step, Splitter.inInline, if_neg hc]
  exact Text.read_gather (g := fun chars => Splitter.mk done (.inline chars)) hstep chars
    fun c hc hangle => h (hangle ▸ hc)

/-- A `<` begins a block only before a question mark. -/
theorem staysInline_cons {s : String} (h : StaysInline s) {c : Char}
    (hhead : s.toList.head? = some c) (hquestion : c ≠ '?') : StaysInline ("<" ++ s) := by
  intro done chars
  obtain ⟨rest, hs⟩ := List.head?_eq_some_iff.mp hhead
  have hopen : Text.read Splitter.step ⟨done, .inline chars⟩ "<" =
      some ⟨done, .inlineAngle chars⟩ := by
    simp [Text.read, Splitter.step, Splitter.inInline]
  have hinline := h done (chars ++ ['<'])
  rw [Text.read_append, hopen, Option.bind_some, Text.read, hs, List.foldlM_cons, Splitter.step,
    if_neg hquestion]
  rw [Text.read, hs, List.foldlM_cons, Splitter.step] at hinline
  rw [hinline]
  simp [hs]

/-- Whether no block begins in a text or at its end. -/
def opensNoBlock : List Char → Bool
  | [] => true
  | c :: rest => (c != '<' || rest.head?.any (· != '?')) && opensNoBlock rest

theorem staysInline_of_check {s : String} (h : opensNoBlock s.toList = true) : StaysInline s := by
  have hlist : ∀ cs, opensNoBlock cs = true → StaysInline (String.ofList cs) := by
    intro cs
    induction cs with
    | nil =>
        intro _ done chars
        simp
    | cons c rest ih =>
        intro hcs
        rw [opensNoBlock, Bool.and_eq_true] at hcs
        have hrest := ih hcs.2
        have hcons : String.ofList (c :: rest) = String.singleton c ++ String.ofList rest := by
          simp
        rw [hcons]
        by_cases hangle : c = '<'
        · subst hangle
          cases rest with
          | nil => simp at hcs
          | cons d others =>
              have hquestion : d ≠ '?' := by simpa using hcs.1
              exact staysInline_cons hrest (by simp) hquestion
        · have hfirst : AngleFree (String.singleton c) := by
            simpa [AngleFree] using Ne.symm hangle
          exact staysInline_append (staysInline_of_angleFree hfirst) hrest
  have hs := hlist s.toList h
  rwa [String.ofList_toList] at hs

theorem Splitter.read_behindBlock (done : List Part) {s : String} (h : StaysInline s) {c : Char}
    (hhead : s.toList.head? = some c) (hbreak : c ≠ '\n' ∧ c ≠ '\r') :
    Text.read step ⟨done, .behindBlock⟩ s = some ⟨done, .inline s.toList⟩ := by
  obtain ⟨rest, hs⟩ := List.head?_eq_some_iff.mp hhead
  have hinline := h done []
  rw [Text.read, hs, List.foldlM_cons] at hinline ⊢
  simpa [step, hbreak] using hinline

end StaticSite.Php
