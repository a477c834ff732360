import Mathlib.Data.List.Infix
import Mathlib.Tactic.SplitIfs
import StaticSite.Text.Escape
import StaticSite.Toml.Scalar

/-!
# Identifiers in a style sheet

A reader of CSS takes an identifier character by character and replaces what stands behind a
backslash. An escaped text in front of the brace of a block is read back whole just when it holds
no characters but those of identifiers and `<`. In every other text the reader stops early or
takes several characters for one, so what it gives is lighter than the text.
-/

namespace StaticSite.Css

open Toml (isHexDigit valueIn)

/-! ## The reader -/

def isNewline (c : Char) : Bool :=
  c == '\n' || c == '\r' || c == '\x0c'

def isSpace (c : Char) : Bool :=
  isNewline c || c == ' ' || c == '\t'

def isIdentStart (c : Char) : Bool :=
  c.isAlpha || c == '_' || 0x80 ≤ c.toNat

def isIdentChar (c : Char) : Bool :=
  isIdentStart c || c.isDigit || c == '-'

/-- What stands for a character that a style sheet cannot hold. -/
def replacement : Char := '\ufffd'

def legible (c : Char) : Char :=
  if c.toNat = 0 then replacement else c

/-- The character with a code point in hexadecimal digits. -/
def codeChar (digits : List Char) : Char :=
  let code := valueIn 16 digits
  if code ≠ 0 ∧ Nat.isValidChar code then Char.ofNat code else replacement

/-- One space behind an escape in digits belongs to the escape. -/
def dropSpace : List Char → List Char
  | '\r' :: '\n' :: rest => rest
  | c :: rest => if isSpace c then rest else c :: rest
  | [] => []

/-- The digits of an escape, six at most, behind the first of them. -/
def moreDigits (cs : List Char) : List Char :=
  (cs.take 5).takeWhile isHexDigit

/-- The character that is escaped, and the text behind it. No escape goes over a newline. -/
def readEscape : List Char → Option (Char × List Char)
  | [] => some (replacement, [])
  | c :: rest =>
    if isNewline c then none
    else if isHexDigit c then
      some (codeChar (c :: moreDigits rest), dropSpace (rest.drop (moreDigits rest).length))
    else some (legible c, rest)

theorem dropSpace_suffix (cs : List Char) : dropSpace cs <:+ cs := by
  unfold dropSpace
  split
  · exact ⟨['\r', '\n'], rfl⟩
  · split_ifs
    · exact List.suffix_cons _ _
    · exact List.suffix_rfl
  · exact List.suffix_rfl

theorem readEscape_length {cs rest : List Char} {c : Char} (h : readEscape cs = some (c, rest)) :
    rest.length ≤ cs.length := by
  unfold readEscape at h
  split at h
  · cases h
    exact Nat.le_refl _
  · next d behind =>
    rw [List.length_cons]
    split_ifs at h
    · cases h
      have hspace := (dropSpace_suffix (behind.drop (moreDigits behind).length)).length_le
      have hdigits := (List.drop_suffix (moreDigits behind).length behind).length_le
      omega
    · cases h
      exact Nat.le_succ _

/-- The identifier at the front, with its escapes replaced, and the text behind it. -/
def readIdent (cs : List Char) : List Char × List Char :=
  match cs with
  | [] => ([], [])
  | c :: rest =>
    if c = '\\' then
      match _hescape : readEscape rest with
      | some (d, behind) => (d :: (readIdent behind).1, (readIdent behind).2)
      | none => ([], c :: rest)
    else if isIdentChar (legible c) then
      (legible c :: (readIdent rest).1, (readIdent rest).2)
    else ([], c :: rest)
termination_by cs.length
decreasing_by
  · exact Nat.lt_succ_of_le (readEscape_length _hescape)
  · exact Nat.lt_succ_self _

/-- Whether the reader finds an identifier here. A digit cannot begin one, nor a dash by itself. -/
def startsIdent : List Char → Bool
  | '-' :: '\\' :: rest => (readEscape rest).isSome
  | '-' :: c :: _ => c == '-' || isIdentStart (legible c)
  | '\\' :: rest => (readEscape rest).isSome
  | c :: _ => isIdentStart (legible c)
  | [] => false

/-- The id that a selector at the front demands, and the text behind the selector. -/
def readSelector : List Char → Option (List Char × List Char)
  | '#' :: rest => if startsIdent rest then some (readIdent rest) else none
  | _ => none

theorem readIdent_stop {cs : List Char}
    (h : ∀ c ∈ cs.head?, c ≠ '\\' ∧ isIdentChar (legible c) = false) :
    readIdent cs = ([], cs) := by
  unfold readIdent
  split
  · rfl
  · next c rest =>
    obtain ⟨hslash, hident⟩ := h c rfl
    rw [if_neg hslash, hident, if_neg Bool.false_ne_true]

theorem readIdent_char {c : Char} (hslash : c ≠ '\\') (hident : isIdentChar (legible c) = true)
    (rest : List Char) :
    readIdent (c :: rest) = (legible c :: (readIdent rest).1, (readIdent rest).2) := by
  rw [readIdent, if_neg hslash, if_pos hident]

theorem readIdent_escape {rest behind : List Char} {d : Char}
    (h : readEscape rest = some (d, behind)) :
    readIdent ('\\' :: rest) = (d :: (readIdent behind).1, (readIdent behind).2) := by
  rw [readIdent, if_pos rfl]
  split
  · next hsome =>
    cases h.symm.trans hsome
    rfl
  · next hnone => cases h.symm.trans hnone

theorem readIdent_no_escape {rest : List Char} (h : readEscape rest = none) :
    readIdent ('\\' :: rest) = ([], '\\' :: rest) := by
  rw [readIdent, if_pos rfl]
  split
  · next hsome => cases h.symm.trans hsome
  · rfl

/-! ## The weight of a text -/

/-- The two characters that begin an escape in a written text count most, and a null character
more than what replaces it. Then nothing that is read for a character outweighs it. -/
def weight (c : Char) : Nat :=
  if c = '\\' ∨ c = '<' then 3 else if c.toNat = 0 then 2 else 1

def load : List Char → Nat
  | [] => 0
  | c :: s => weight c + load s

@[simp] theorem load_nil : load [] = 0 := rfl

@[simp] theorem load_cons (c : Char) (s : List Char) : load (c :: s) = weight c + load s := rfl

theorem load_le_of_suffix {a s : List Char} (h : a <:+ s) : load a ≤ load s := by
  obtain ⟨front, rfl⟩ := h
  induction front with
  | nil => exact Nat.le_refl _
  | cons c front ih => exact ih.trans (Nat.le_add_left _ _)

theorem weight_pos (c : Char) : 0 < weight c := by
  unfold weight
  split_ifs <;> decide

theorem weight_le (c : Char) : weight c ≤ 3 := by
  unfold weight
  split_ifs <;> decide

theorem weight_legible (c : Char) : weight (legible c) ≤ weight c := by
  unfold legible
  split_ifs
  · exact weight_pos c
  · exact Nat.le_refl _

/-! ## Reading an escaped text -/

/-- The characters that a style sheet gives back in an identifier. -/
def isSelectable (c : Char) : Bool :=
  isIdentChar c || c == '<'

theorem legible_of_ne {c : Char} (hc : c ≠ '\x00') : legible c = c := by
  unfold legible
  rw [if_neg]
  exact fun hnull => hc (Char.toNat_inj.mp hnull)

theorem legible_of_selectable {c : Char} (hc : isSelectable c = true) : legible c = c := by
  apply legible_of_ne
  rintro rfl
  exact absurd hc (by decide)

theorem ne_backslash_of_selectable {c : Char} (hc : isSelectable c = true) : c ≠ '\\' := by
  rintro rfl
  exact absurd hc (by decide)

variable (block : List Char)

/-- An escaped text with a block behind it. -/
def opened (s : List Char) : List Char :=
  s.flatMap Text.cssChar ++ ' ' :: '\x7b' :: block

@[simp] theorem opened_nil : opened block [] = ' ' :: '\x7b' :: block := rfl

theorem opened_lt (s : List Char) :
    opened block ('<' :: s) = '\\' :: '3' :: 'c' :: ' ' :: opened block s := rfl

theorem opened_cons {c : Char} (hc : c ≠ '<') (s : List Char) :
    opened block (c :: s) = c :: opened block s := by
  simp [opened, Text.cssChar]

theorem digits_opened (count : Nat) (s : List Char) :
    ∃ s₁, s₁ <:+ s ∧
      (opened block s).drop (((opened block s).take count).takeWhile isHexDigit).length =
        opened block s₁ := by
  induction s generalizing count with
  | nil =>
      refine ⟨[], List.suffix_rfl, ?_⟩
      cases count <;> rfl
  | cons c s ih =>
      by_cases hlt : c = '<'
      · subst hlt
        refine ⟨_, List.suffix_rfl, ?_⟩
        cases count <;> rfl
      rw [opened_cons block hlt]
      cases count with
      | zero => exact ⟨c :: s, List.suffix_rfl, (opened_cons block hlt s).symm⟩
      | succ count =>
          rw [List.take_succ_cons, List.takeWhile_cons]
          split
          · obtain ⟨s₁, hsuffix, hdrop⟩ := ih count
            exact ⟨s₁, hsuffix.trans (List.suffix_cons c s), hdrop⟩
          · exact ⟨c :: s, List.suffix_rfl, (opened_cons block hlt s).symm⟩

theorem opened_eq_newline {s rest : List Char} (h : opened block s = '\n' :: rest) :
    ∃ s₁, s = '\n' :: s₁ ∧ rest = opened block s₁ := by
  cases s with
  | nil => simp at h
  | cons c s =>
      by_cases hlt : c = '<'
      · subst hlt
        simp [opened_lt] at h
      · rw [opened_cons block hlt, List.cons.injEq] at h
        exact ⟨s, by rw [h.1], h.2.symm⟩

theorem dropSpace_opened (s : List Char) :
    dropSpace (opened block s) = '\x7b' :: block ∨
      ∃ s₁, s₁ <:+ s ∧ dropSpace (opened block s) = opened block s₁ := by
  cases s with
  | nil => exact .inl rfl
  | cons c s =>
      right
      by_cases hlt : c = '<'
      · subst hlt
        exact ⟨_, List.suffix_rfl, rfl⟩
      rw [opened_cons block hlt]
      unfold dropSpace
      split
      · next hcs =>
        obtain ⟨s₁, rfl, hrest⟩ := opened_eq_newline block (List.cons.inj hcs).2
        exact ⟨s₁, (List.suffix_cons _ _).trans (List.suffix_cons _ _), hrest⟩
      · next d rest _ hcs =>
        obtain ⟨rfl, rfl⟩ := List.cons.inj hcs
        split_ifs
        · exact ⟨s, List.suffix_cons c s, rfl⟩
        · exact ⟨c :: s, List.suffix_rfl, (opened_cons block hlt s).symm⟩
      · next hcs => cases hcs

/-- A backslash in the text itself takes at least one more character for the one that it gives. -/
theorem readEscape_opened {c d : Char} {s rest : List Char} (hlt : c ≠ '<')
    (h : readEscape (opened block (c :: s)) = some (d, rest)) :
    rest = '\x7b' :: block ∨
      ∃ s₁, s₁ <:+ s ∧ rest = opened block s₁ ∧ weight d + load s₁ < 3 + load (c :: s) := by
  have hpos := weight_pos c
  rw [opened_cons block hlt, readEscape] at h
  rw [load_cons]
  split_ifs at h
  · obtain ⟨s₁, hdigits, hdrop⟩ := digits_opened block 5 s
    have hload := load_le_of_suffix hdigits
    have hd := weight_le d
    simp only [moreDigits, hdrop, Option.some.injEq, Prod.mk.injEq] at h
    rcases dropSpace_opened block s₁ with hspace | ⟨s₂, hspace, hdropped⟩
    · exact .inl (h.2.symm.trans hspace)
    · have hload₂ := load_le_of_suffix hspace
      exact .inr ⟨s₂, hspace.trans hdigits, h.2.symm.trans hdropped, by omega⟩
  · cases h
    have hd := weight_legible c
    exact .inr ⟨s, List.suffix_rfl, rfl, by omega⟩

/-- The reader stops at the space and at the brace behind an identifier. -/
theorem readIdent_end {c : Char} (hc : c = ' ' ∨ c = '\x7b') (rest : List Char) :
    readIdent (c :: rest) = ([], c :: rest) := by
  apply readIdent_stop
  rintro _ ⟨⟩
  rcases hc with rfl | rfl <;> decide

/-- A text with a backslash in front is never read back, whatever stands behind it. -/
theorem load_readIdent_slash {s : List Char}
    (ih : ∀ s₁, s₁.length ≤ s.length → load (readIdent (opened block s₁)).1 ≤ load s₁) :
    load (readIdent (opened block ('\\' :: s))).1 < load ('\\' :: s) := by
  have hslash : weight '\\' = 3 := by decide
  rw [opened_cons block (by decide), load_cons, hslash]
  cases s with
  | nil =>
      -- The space in front of the block is escaped.
      have hread : readIdent ('\\' :: opened block []) = ([' '], '\x7b' :: block) := by
        have hescape : readEscape (opened block []) = some (' ', '\x7b' :: block) := rfl
        rw [readIdent_escape hescape, readIdent_end (.inr rfl)]
      rw [hread, load_cons]
      decide
  | cons c s =>
      by_cases hlt : c = '<'
      · -- The two backslashes are read as one, and the code of the other escape as two digits.
        subst hlt
        have hescape : readEscape (opened block ('<' :: s)) =
            some ('\\', '3' :: 'c' :: ' ' :: opened block s) := rfl
        have hthree : readIdent ('3' :: 'c' :: ' ' :: opened block s) =
            (['3', 'c'], ' ' :: opened block s) := by
          rw [readIdent_char (by decide) (by decide), readIdent_char (by decide) (by decide),
            readIdent_end (.inl rfl)]
          rfl
        have hload : load ['\\', '3', 'c'] = 5 := by decide
        have hweight : weight '<' = 3 := by decide
        rw [readIdent_escape hescape, hthree, hload, load_cons, hweight]
        omega
      cases hescape : readEscape (opened block (c :: s)) with
      | none =>
          rw [readIdent_no_escape hescape, load_nil]
          omega
      | some read =>
          obtain ⟨d, rest⟩ := read
          rw [readIdent_escape hescape, load_cons]
          rcases readEscape_opened block hlt hescape with rfl | ⟨s₁, hsuffix, rfl, hload⟩
          · -- An escape in digits took the space in front of the block.
            have hd := weight_le d
            have hc := weight_pos c
            rw [readIdent_end (.inr rfl), load_nil, load_cons]
            omega
          · have hlength := hsuffix.length_le
            have hrest := ih s₁ (hlength.trans (Nat.le_succ _))
            omega

theorem load_readIdent_cons {c : Char} (hslash : c ≠ '\\') (hc : isSelectable c = false)
    (s : List Char) :
    load (readIdent (opened block (c :: s))).1 <
      weight c + load (readIdent (opened block s)).1 := by
  have hpos := weight_pos c
  rw [isSelectable, Bool.or_eq_false_iff, beq_eq_false_iff_ne] at hc
  rw [opened_cons block hc.2]
  -- A null character is read as another one, and at all others the reader stops.
  by_cases hnull : c = '\x00'
  · subst hnull
    have hnull : weight '\x00' = 2 := by decide
    have hreplaced : weight (legible '\x00') = 1 := by decide
    rw [readIdent_char (by decide) (by decide), load_cons, hreplaced, hnull]
    omega
  · have hstop : readIdent (c :: opened block s) = ([], c :: opened block s) := by
      apply readIdent_stop
      rintro _ ⟨⟩
      exact ⟨hslash, by rw [legible_of_ne hnull, hc.1]⟩
    rw [hstop, load_nil]
    omega

theorem readIdent_selectable_cons {c : Char} (hc : isSelectable c = true) (s : List Char) :
    readIdent (opened block (c :: s)) =
      (c :: (readIdent (opened block s)).1, (readIdent (opened block s)).2) := by
  by_cases hlt : c = '<'
  · subst hlt
    exact readIdent_escape rfl
  · have hident : isIdentChar (legible c) = true := by
      rw [legible_of_selectable hc]
      simpa [isSelectable, hlt] using hc
    rw [opened_cons block hlt, readIdent_char (ne_backslash_of_selectable hc) hident,
      legible_of_selectable hc]

theorem readIdent_opened {s : List Char} (h : ∀ c ∈ s, isSelectable c = true) :
    readIdent (opened block s) = (s, opened block []) := by
  induction s with
  | nil => exact readIdent_end (.inl rfl) _
  | cons c s ih =>
      obtain ⟨hc, hchars⟩ := List.forall_mem_cons.mp h
      rw [readIdent_selectable_cons block hc, ih hchars]

/-- With any other character in it a text is read as something lighter. The induction is on the
length, as an escape takes several characters at once. -/
theorem load_readIdent_lt {s : List Char} (h : ¬∀ c ∈ s, isSelectable c = true) :
    load (readIdent (opened block s)).1 < load s := by
  have ih (s₁ : List Char) (hlength : s₁.length < s.length) :
      load (readIdent (opened block s₁)).1 ≤ load s₁ := by
    by_cases hchars : ∀ c ∈ s₁, isSelectable c = true
    · rw [readIdent_opened block hchars]
    · exact (load_readIdent_lt hchars).le
  match s with
  | [] => exact absurd (List.forall_mem_nil _) h
  | c :: s =>
    by_cases hslash : c = '\\'
    · subst hslash
      exact load_readIdent_slash block fun s₁ hlength => ih s₁ (Nat.lt_succ_of_le hlength)
    rw [load_cons]
    cases hc : isSelectable c with
    | true =>
        have hrest := load_readIdent_lt fun hchars => h (List.forall_mem_cons.mpr ⟨hc, hchars⟩)
        rw [readIdent_selectable_cons block hc, load_cons]
        omega
    | false =>
        have hcons := load_readIdent_cons block hslash hc s
        have hrest := ih s (Nat.lt_succ_self _)
        omega
termination_by s.length

/-! ## Texts that can be selected -/

/-- A text begins like an identifier once it is escaped. -/
def beginsSelectable : List Char → Bool
  | '-' :: c :: _ => isIdentStart c || c == '-' || c == '<'
  | c :: _ => isIdentStart c || c == '<'
  | [] => false

structure Selectable (id : String) : Prop where
  chars : ∀ c ∈ id.toList, isSelectable c = true
  begins : beginsSelectable id.toList = true

instance (id : String) : Decidable (Selectable id) :=
  decidable_of_iff ((id.toList.all isSelectable && beginsSelectable id.toList) = true) <| by
    rw [Bool.and_eq_true, List.all_eq_true]
    exact ⟨fun h => ⟨h.1, h.2⟩, fun h => ⟨h.chars, h.begins⟩⟩

theorem startsIdent_opened {s : List Char} (hchars : ∀ c ∈ s, isSelectable c = true) :
    startsIdent (opened block s) = beginsSelectable s := by
  cases s with
  | nil => rfl
  | cons c s =>
      obtain ⟨hc, hrest⟩ := List.forall_mem_cons.mp hchars
      by_cases hlt : c = '<'
      · subst hlt
        rfl
      rw [opened_cons block hlt]
      by_cases hdash : c = '-'
      · subst hdash
        cases s with
        | nil => rfl
        | cons d s =>
            have hd := hrest d List.mem_cons_self
            by_cases hlt : d = '<'
            · subst hlt
              rfl
            · simp [opened_cons block hlt, startsIdent, beginsSelectable, hlt,
                ne_backslash_of_selectable hd, legible_of_selectable hd, Bool.or_comm]
      · simp [startsIdent, beginsSelectable, hdash, hlt, ne_backslash_of_selectable hc,
          legible_of_selectable hc]

theorem Selectable.read {id : String} (h : Selectable id) :
    readSelector ('#' :: opened block id.toList) = some (id.toList, opened block []) := by
  rw [readSelector, startsIdent_opened block h.chars, if_pos h.begins,
    readIdent_opened block h.chars]

/-- An id that a selector demands is one that can be selected. -/
theorem selectable_of_read {id : String} {rest : List Char}
    (h : readSelector ('#' :: opened block id.toList) = some (id.toList, rest)) :
    Selectable id := by
  rw [readSelector] at h
  split_ifs at h with hstarts
  have hread : readIdent (opened block id.toList) = (id.toList, rest) := Option.some.inj h
  by_cases hchars : ∀ c ∈ id.toList, isSelectable c = true
  · exact ⟨hchars, (startsIdent_opened block hchars).symm.trans hstarts⟩
  · have hlighter := load_readIdent_lt block hchars
    rw [hread] at hlighter
    exact absurd hlighter (Nat.lt_irrefl _)

end StaticSite.Css
