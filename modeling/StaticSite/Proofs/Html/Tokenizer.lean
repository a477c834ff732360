import StaticSite.Html.Tree
import StaticSite.Proofs.Text.Machine

/-!
# Reading tags and texts

A tokenizer of HTML goes through a text character by character. It knows runs of text up to the
next `<`, end tags, and start tags with attributes that have a value in double quotes or none. It
fails on everything else, so that it never has to guess.
-/

namespace StaticSite.Html

inductive Token
  | text (s : String)
  | startTag (name : String) (attributes : List (String × Option String))
  | endTag (name : String)
  deriving DecidableEq

/-- A run of characters outside tags; there is none without characters. -/
def Token.run (s : String) : List Token :=
  if s.isEmpty then [] else [.text s]

/-- A start tag of which some attributes have been read. -/
structure OpenTag where
  name : String
  attributes : List (String × Option String)

def OpenTag.add (tag : OpenTag) (a : String × Option String) : OpenTag :=
  { tag with attributes := tag.attributes ++ [a] }

/-- What a tokenizer is in the middle of, with the characters of it. -/
inductive Within
  | text (run : List Char)
  | tag
  | startName (name : List Char)
  | endName (name : List Char)
  | attributeName (tag : OpenTag) (name : List Char)
  | equals (tag : OpenTag) (name : String)
  | value (tag : OpenTag) (name : String) (value : List Char)
  | behindValue (tag : OpenTag)

structure Tokenizer where
  done : List Token
  within : Within

def isNameChar (c : Char) : Bool :=
  c.isAlphanum || c == '-'

def isName (s : String) : Bool :=
  !s.toList.isEmpty && s.toList.all isNameChar

/-- Behind a name or an attribute, another attribute follows or the tag ends. -/
def Tokenizer.behind (done : List Token) (tag : OpenTag) (c : Char) : Option Tokenizer :=
  if c = ' ' then some ⟨done, .attributeName tag []⟩
  else if c = '>' then some ⟨done ++ [.startTag tag.name tag.attributes], .text []⟩
  else none

def Tokenizer.step : Tokenizer → Char → Option Tokenizer
  | ⟨done, .text run⟩, c =>
    if c = '<' then some ⟨done ++ Token.run (String.ofList run), .tag⟩
    else some ⟨done, .text (run ++ [c])⟩
  | ⟨done, .tag⟩, c =>
    if c = '/' then some ⟨done, .endName []⟩
    else if isNameChar c then some ⟨done, .startName [c]⟩
    else none
  | ⟨done, .startName name⟩, c =>
    if isNameChar c then some ⟨done, .startName (name ++ [c])⟩
    else behind done ⟨String.ofList name, []⟩ c
  | ⟨done, .endName name⟩, c =>
    if isNameChar c then some ⟨done, .endName (name ++ [c])⟩
    else if c = '>' ∧ name ≠ [] then some ⟨done ++ [.endTag (String.ofList name)], .text []⟩
    else none
  | ⟨done, .attributeName tag name⟩, c =>
    if isNameChar c then some ⟨done, .attributeName tag (name ++ [c])⟩
    else if name = [] then none
    else if c = '=' then some ⟨done, .equals tag (String.ofList name)⟩
    else behind done (tag.add (String.ofList name, none)) c
  | ⟨done, .equals tag name⟩, c =>
    if c = '"' then some ⟨done, .value tag name []⟩ else none
  | ⟨done, .value tag name value⟩, c =>
    if c = '"' then some ⟨done, .behindValue (tag.add (name, some (String.ofList value)))⟩
    else some ⟨done, .value tag name (value ++ [c])⟩
  | ⟨done, .behindValue tag⟩, c => behind done tag c

abbrev Tokenizer.read (t : Tokenizer) (s : String) : Option Tokenizer :=
  Text.read Tokenizer.step t s

/-- The tokens of a text that ends outside a tag. -/
def tokenize (s : String) : Option (List Token) :=
  match Tokenizer.read ⟨[], .text []⟩ s with
  | some ⟨done, .text run⟩ => some (done ++ Token.run (String.ofList run))
  | _ => none

theorem Tokenizer.read_append (t : Tokenizer) (a b : String) :
    t.read (a ++ b) = (t.read a).bind (·.read b) :=
  Text.read_append t a b

theorem isName_chars {s : String} (hs : isName s = true) : ∀ c ∈ s.toList, isNameChar c = true := by
  rw [isName, Bool.and_eq_true, List.all_eq_true] at hs
  exact hs.2

theorem isName_ne_nil {s : String} (hs : isName s = true) : s.toList ≠ [] := by
  rw [isName, Bool.and_eq_true] at hs
  simpa using hs.1

/-! ## Runs of characters -/

theorem Tokenizer.read_gather {done : List Token} {gather : List Char → Within}
    {keeps : Char → Prop}
    (hstep : ∀ chars c, keeps c →
      Tokenizer.step ⟨done, gather chars⟩ c = some ⟨done, gather (chars ++ [c])⟩)
    (chars : List Char) {s : String} (hs : ∀ c ∈ s.toList, keeps c) :
    Tokenizer.read ⟨done, gather chars⟩ s = some ⟨done, gather (chars ++ s.toList)⟩ :=
  Text.read_gather hstep chars hs

section Runs

variable (done : List Token)

theorem Tokenizer.read_text (run : List Char) {s : String} (hs : '<' ∉ s.toList) :
    Tokenizer.read ⟨done, .text run⟩ s = some ⟨done, .text (run ++ s.toList)⟩ := by
  refine Tokenizer.read_gather (fun chars c (hc : c ≠ '<') => ?_) run ?_
  · rw [Tokenizer.step, if_neg hc]
  · rintro c hc rfl
    exact hs hc

theorem Tokenizer.read_value (tag : OpenTag) (name : String) {s : String}
    (hs : '"' ∉ s.toList) :
    Tokenizer.read ⟨done, .value tag name []⟩ s = some ⟨done, .value tag name s.toList⟩ := by
  refine Tokenizer.read_gather (fun chars c (hc : c ≠ '"') => ?_) [] ?_
  · rw [Tokenizer.step, if_neg hc]
  · rintro c hc rfl
    exact hs hc

theorem Tokenizer.read_attributeName (tag : OpenTag) {name : String}
    (hname : isName name = true) :
    Tokenizer.read ⟨done, .attributeName tag []⟩ name =
      some ⟨done, .attributeName tag name.toList⟩ := by
  refine Tokenizer.read_gather (fun chars c (hc : isNameChar c = true) => ?_) [] ?_
  · rw [Tokenizer.step, if_pos hc]
  · exact isName_chars hname

theorem Tokenizer.read_endName {name : String} (hname : isName name = true) :
    Tokenizer.read ⟨done, .endName []⟩ name = some ⟨done, .endName name.toList⟩ := by
  refine Tokenizer.read_gather (fun chars c (hc : isNameChar c = true) => ?_) [] ?_
  · rw [Tokenizer.step, if_pos hc]
  · exact isName_chars hname

theorem Tokenizer.read_startName {name : String} (hname : isName name = true) :
    Tokenizer.read ⟨done, .tag⟩ name = some ⟨done, .startName name.toList⟩ := by
  have hchars := isName_chars hname
  obtain ⟨c, rest, hcons⟩ := List.exists_cons_of_ne_nil (isName_ne_nil hname)
  have hname' : name = String.singleton c ++ String.ofList rest := by
    rw [← String.ofList_toList (s := name), hcons]
    simp
  rw [hcons] at hchars
  have hc := hchars c List.mem_cons_self
  have hslash : c ≠ '/' := by
    rintro rfl
    exact absurd hc (by decide)
  have hfirst : Tokenizer.read ⟨done, .tag⟩ (String.singleton c) =
      some ⟨done, .startName [c]⟩ := by
    simp [Text.read, Tokenizer.step, hslash, hc]
  have hothers : Tokenizer.read ⟨done, .startName [c]⟩ (String.ofList rest) =
      some ⟨done, .startName ([c] ++ (String.ofList rest).toList)⟩ := by
    refine Tokenizer.read_gather (fun chars d (hd : isNameChar d = true) => ?_) [c] ?_
    · rw [Tokenizer.step, if_pos hd]
    · intro d hd
      rw [String.toList_ofList] at hd
      exact hchars d (List.mem_cons_of_mem c hd)
  rw [hname', Tokenizer.read_append, hfirst, Option.bind_some, hothers]
  simp

end Runs

end StaticSite.Html
