import StaticSite.Proofs.Script.Reader
import StaticSite.Proofs.Text.Entities

/-!
# Escaped texts and their readers

What is escaped is for a reader of HTML, of a single-quoted literal in a script, or of one in PHP.
Each reader gets the text that was escaped, and gets to the end of the literal where it was closed,
whatever stands behind. The lemmas on one escaped character leave open what follows, so one
induction over the text does for both kinds of literals.
-/

namespace StaticSite

/-- A reader that gets back every escaped character, whatever follows, gets back an escaped text up
to the quote behind it. -/
theorem Text.read_escaped_quote {read : List Char → Option (List Char × List Char)}
    {escapeChar : Char → List Char} (hquote : ∀ rest, read ('\'' :: rest) = some ([], rest))
    (hchar : ∀ c rest, read (escapeChar c ++ rest) = (read rest).map (Prod.map (c :: ·) id))
    (chars rest : List Char) :
    read (chars.flatMap escapeChar ++ '\'' :: rest) = some (chars, rest) := by
  induction chars with
  | nil => exact hquote rest
  | cons c others ih =>
      rw [List.flatMap_cons, List.append_assoc, hchar, ih]
      rfl

namespace Script

/-- Where the reader of a literal is. -/
inductive Place
  | plain
  | escape
  /-- Behind a backslash and a carriage return: a newline would belong to these. -/
  | lineBreak
  /-- Behind an escaped zero, which no digit may follow. -/
  | zero
  | unicode
  /-- So many digits are still to come. -/
  | digits (missing code : Nat)
  | braces (code? : Option Nat)

/-- A character closes the literal, or it completes some characters of the value. -/
inductive Meaning
  | closed
  | stands (chars : List Char) (next : Place)

def codePoint? (code : Nat) : Option Meaning :=
  if code.isValidChar then some (.stands [Char.ofNat code] .plain) else none

/-- A literal cannot go on in the next line; the separators of lines and paragraphs may stand in
it. -/
def plainMeaning (c : Char) : Option Meaning :=
  if c = '\'' then some .closed
  else if c = '\\' then some (.stands [] .escape)
  else if c = '\n' ∨ c = '\r' then none
  else some (.stands [c] .plain)

def digitMeaning (missing code : Nat) (c : Char) : Option Meaning :=
  (hexDigit? c).bind fun digit =>
    if missing ≤ 1 then codePoint? (16 * code + digit)
    else some (.stands [] (.digits (missing - 1) (16 * code + digit)))

/-- How single-quoted literals of ES2019 are read. Halves of surrogate pairs are not known, for a
value is a text. -/
def Place.meaning : Place → Char → Option Meaning
  | .plain, c => plainMeaning c
  | .escape, c =>
    if c = 'x' then some (.stands [] (.digits 2 0))
    else if c = 'u' then some (.stands [] .unicode)
    else if c = '0' then some (.stands [Char.ofNat 0] .zero)
    else if c = '\r' then some (.stands [] .lineBreak)
    else if c = '\u2028' ∨ c = '\u2029' then some (.stands [] .plain)
    else (escaped? c).map (.stands · .plain)
  | .lineBreak, c => if c = '\n' then some (.stands [] .plain) else plainMeaning c
  | .zero, c => if c.isDigit then none else plainMeaning c
  | .unicode, c => if c = '\x7b' then some (.stands [] (.braces none)) else digitMeaning 4 0 c
  | .digits missing code, c => digitMeaning missing code c
  | .braces code?, c =>
    if c = '\x7d' then code?.bind codePoint?
    else (hexDigit? c).map fun digit => .stands [] (.braces (some (16 * code?.getD 0 + digit)))

/-- The value of a literal from some place in it on, and what stands behind the literal. -/
def Place.read : Place → List Char → Option (List Char × List Char)
  | _, [] => none
  | place, c :: rest =>
    match place.meaning c with
    | some .closed => some ([], rest)
    | some (.stands chars next) => (next.read rest).map (Prod.map (chars ++ ·) id)
    | none => none

/-- Reads the inside of a literal up to its closing quote. -/
def readLiteral (s : String) : Option (String × String) :=
  (Place.plain.read s.toList).map (Prod.map String.ofList String.ofList)

theorem Place.read_stands {place next : Place} {c : Char} {chars : List Char}
    (hmeaning : place.meaning c = some (.stands chars next)) (rest : List Char) :
    place.read (c :: rest) = (next.read rest).map (Prod.map (chars ++ ·) id) := by
  rw [Place.read, hmeaning]

theorem read_scriptChar_append (c : Char) (rest : List Char) :
    Place.plain.read (Text.scriptChar c ++ rest) =
      (Place.plain.read rest).map (Prod.map (c :: ·) id) := by
  have hpair {d : Char} (hd : Place.escape.meaning d = some (.stands [c] .plain)) :
      Place.plain.read (['\\', d] ++ rest) =
        (Place.plain.read rest).map (Prod.map (c :: ·) id) := by
    rw [List.cons_append, List.singleton_append, Place.read_stands rfl, Place.read_stands hd]
    cases Place.plain.read rest <;> rfl
  unfold Text.scriptChar
  split
  · exact hpair rfl
  · exact hpair rfl
  · exact hpair rfl
  · simp only [List.cons_append, List.nil_append]
    iterate 6 rw [Place.read_stands rfl]
    cases Place.plain.read rest <;> rfl
  · exact hpair rfl
  · exact hpair rfl
  · next hback hquote _ _ hline hreturn =>
      have hplain : Place.plain.meaning c = some (.stands [c] .plain) := by
        rw [Place.meaning, plainMeaning, if_neg hquote, if_neg hback,
          if_neg (not_or.mpr ⟨hline, hreturn⟩)]
      exact Place.read_stands hplain rest

theorem readLiteral_escapeScript (s t : String) :
    readLiteral (Text.escapeScript s ++ "'" ++ t) = some (s, t) := by
  have hread := Text.read_escaped_quote (fun _ => rfl) read_scriptChar_append s.toList t.toList
  have htext : (Text.escapeScript s ++ "'" ++ t).toList =
      s.toList.flatMap Text.scriptChar ++ '\'' :: t.toList := by
    simp [Text.escapeScript_eq_escapeWith, Text.escapeWith]
  simp [readLiteral, htext, hread]

end Script

namespace Php

/-- The value of a literal behind its opening quote, and what stands behind the literal. A backslash
stands for itself where no backslash and no quote follows. -/
def readInside : List Char → Option (List Char × List Char)
  | [] => none
  | '\'' :: rest => some ([], rest)
  | '\\' :: '\\' :: rest => (readInside rest).map (Prod.map ('\\' :: ·) id)
  | '\\' :: '\'' :: rest => (readInside rest).map (Prod.map ('\'' :: ·) id)
  | c :: rest => (readInside rest).map (Prod.map (c :: ·) id)

def readLiteral (s : String) : Option (String × String) :=
  match s.toList with
  | '\'' :: rest => (readInside rest).map (Prod.map String.ofList String.ofList)
  | _ => none

theorem readInside_phpChar_append (c : Char) (rest : List Char) :
    readInside (Text.phpChar c ++ rest) = (readInside rest).map (Prod.map (c :: ·) id) := by
  unfold Text.phpChar
  split
  · rfl
  · rfl
  · next hback hquote =>
      rw [List.singleton_append, readInside]
      all_goals
        intros
        contradiction

theorem readLiteral_phpLiteral (s t : String) :
    readLiteral (Text.phpLiteral s ++ t) = some (s, t) := by
  have hread := Text.read_escaped_quote (fun _ => rfl) readInside_phpChar_append s.toList t.toList
  have htext : (Text.phpLiteral s ++ t).toList =
      '\'' :: (s.toList.flatMap Text.phpChar ++ '\'' :: t.toList) := by
    simp [Text.phpLiteral, Text.escapeWith]
  simp [readLiteral, htext, hread]

end Php

namespace Text

/-- Each reader gets what was escaped, whatever stands behind; nothing that is escaped ends what it
stands in; and looking for special characters first changes nothing. -/
theorem escaped_texts_read (s t : String) :
    (decodeEntities (escapeHtml s) = s ∧ escapeHtml (s ++ t) = escapeHtml s ++ escapeHtml t ∧
      (∀ c ∈ (escapeHtml s).toList, c ≠ '<' ∧ c ≠ '>' ∧ c ≠ '"' ∧ c ≠ '\'') ∧
      escapeHtml s = escapeWith htmlChar s) ∧
    (Script.readLiteral (escapeScript s ++ "'" ++ t) = some (s, t) ∧
      (∀ c ∈ (escapeScript s).toList, c ≠ '<' ∧ c ≠ '\n' ∧ c ≠ '\r') ∧
      escapeScript s = escapeWith scriptChar s) ∧
    Php.readLiteral (phpLiteral s ++ t) = some (s, t) := by
  refine ⟨⟨?_, ?_, ?_, ?_⟩, ⟨?_, ?_, ?_⟩, ?_⟩
  · exact decodeEntities_escapeHtml s
  · exact escapeHtml_append s t
  · exact fun c hc => escapeHtml_closed hc
  · exact escapeHtml_eq_escapeWith s
  · exact Script.readLiteral_escapeScript s t
  · exact fun c hc => escapeScript_closed hc
  · exact escapeScript_eq_escapeWith s
  · exact Php.readLiteral_phpLiteral s t

end Text

end StaticSite
