import StaticSite.Text.Escape

/-!
# Entities

A reader of HTML replaces entities from left to right. It reads an escaped text as the text
that was escaped, and an escaped text has no character that ends a run of text or a quoted value.
Escaping goes character by character, so it may be done before texts are put together.
-/

namespace StaticSite.Text

/-- Replaces the five entities that escaping writes. -/
def decodeChars : List Char → List Char
  | '&' :: 'a' :: 'm' :: 'p' :: ';' :: rest => '&' :: decodeChars rest
  | '&' :: 'l' :: 't' :: ';' :: rest => '<' :: decodeChars rest
  | '&' :: 'g' :: 't' :: ';' :: rest => '>' :: decodeChars rest
  | '&' :: 'q' :: 'u' :: 'o' :: 't' :: ';' :: rest => '"' :: decodeChars rest
  | '&' :: '#' :: 'x' :: '2' :: '7' :: ';' :: rest => '\'' :: decodeChars rest
  | c :: rest => c :: decodeChars rest
  | [] => []

def decodeEntities (s : String) : String :=
  String.ofList (decodeChars s.toList)

theorem decodeChars_cons_of_ne {c : Char} (hc : c ≠ '&') (rest : List Char) :
    decodeChars (c :: rest) = c :: decodeChars rest := by
  rw [decodeChars]
  all_goals
    intros
    contradiction

theorem decodeChars_htmlChar (c : Char) (rest : List Char) :
    decodeChars (htmlChar c ++ rest) = c :: decodeChars rest := by
  unfold htmlChar
  split
  · rfl
  · rfl
  · rfl
  · rfl
  · rfl
  · next hamp _ _ _ _ => exact decodeChars_cons_of_ne hamp rest

theorem decodeChars_flatMap (cs : List Char) : decodeChars (cs.flatMap htmlChar) = cs := by
  induction cs with
  | nil => rfl
  | cons c rest ih => rw [List.flatMap_cons, decodeChars_htmlChar, ih]

@[simp] theorem decodeEntities_escapeHtml (s : String) : decodeEntities (escapeHtml s) = s := by
  simp [decodeEntities, escapeHtml_eq_escapeWith, escapeWith, decodeChars_flatMap]

theorem htmlChar_closed {c d : Char} (hd : d ∈ htmlChar c) :
    d ≠ '<' ∧ d ≠ '>' ∧ d ≠ '"' ∧ d ≠ '\'' := by
  unfold htmlChar at hd
  split at hd
  all_goals
    simp only [List.mem_cons, List.not_mem_nil, or_false] at hd
  · rcases hd with rfl | rfl | rfl | rfl | rfl <;> decide
  · rcases hd with rfl | rfl | rfl | rfl <;> decide
  · rcases hd with rfl | rfl | rfl | rfl <;> decide
  · rcases hd with rfl | rfl | rfl | rfl | rfl | rfl <;> decide
  · rcases hd with rfl | rfl | rfl | rfl | rfl | rfl <;> decide
  · next _ hlt hgt hquote happ =>
      subst hd
      exact ⟨hlt, hgt, hquote, happ⟩

/-- No character of an escaped text begins or ends a tag or ends a quoted value. -/
theorem escapeHtml_closed {s : String} {d : Char} (hd : d ∈ (escapeHtml s).toList) :
    d ≠ '<' ∧ d ≠ '>' ∧ d ≠ '"' ∧ d ≠ '\'' := by
  rw [escapeHtml_eq_escapeWith, mem_escapeWith] at hd
  obtain ⟨c, _, hmem⟩ := hd
  exact htmlChar_closed hmem

@[simp] theorem escapeHtml_empty : escapeHtml "" = "" := by
  decide

theorem escapeHtml_eq_empty {s : String} : escapeHtml s = "" ↔ s = "" := by
  constructor
  · intro h
    have hdecoded := congrArg decodeEntities h
    rwa [decodeEntities_escapeHtml] at hdecoded
  · rintro rfl
    rfl

theorem escapeHtml_of_chars {s : String} (h : ∀ c ∈ s.toList, htmlChar c = [c]) :
    escapeHtml s = s := by
  rw [escapeHtml_eq_escapeWith, escapeWith_of_kept h]

theorem escapeHtml_append (s t : String) : escapeHtml (s ++ t) = escapeHtml s ++ escapeHtml t := by
  simp only [escapeHtml_eq_escapeWith, escapeWith_append]

theorem escapeHtml_intercalate {separator : String} (h : escapeHtml separator = separator)
    (texts : List String) :
    escapeHtml (String.intercalate separator texts) =
      String.intercalate separator (texts.map escapeHtml) := by
  induction texts with
  | nil => rfl
  | cons s rest ih =>
      cases rest with
      | nil => simp
      | cons t others =>
          rw [String.intercalate_cons_cons, escapeHtml_append, escapeHtml_append, h, ih]
          simp only [List.map_cons, String.intercalate_cons_cons]

end StaticSite.Text
