/-!
# Joining texts

A reader of a document meets two texts that stand side by side as one, and meets no empty text. So
it meets a list of tokens with adjacent texts joined.
-/

namespace StaticSite.Text

/-- A kind of tokens of which some are texts. -/
class TextToken (τ : Type) where
  ofText : String → τ
  text? : τ → Option String
  text?_ofText : ∀ s, text? (ofText s) = some s

export TextToken (ofText text? text?_ofText)

variable {τ : Type} [TextToken τ]

/-- A text as a token; there is none without characters. -/
def textRun (s : String) : List τ :=
  if s.isEmpty then [] else [ofText s]

/-- Tokens, and a text behind them that may go on. -/
structure Flow (τ : Type) where
  met : List τ
  rest : String

def Flow.take (f : Flow τ) (token : τ) : Flow τ :=
  match text? token with
  | some s => ⟨f.met, f.rest ++ s⟩
  | none => ⟨f.met ++ textRun f.rest ++ [token], ""⟩

def Flow.tokens (f : Flow τ) : List τ :=
  f.met ++ textRun f.rest

def joinTexts (tokens : List τ) : List τ :=
  (tokens.foldl Flow.take ⟨[], ""⟩).tokens

theorem Flow.foldl_textRun (f : Flow τ) (s : String) :
    (textRun s).foldl Flow.take f = f.take (ofText s) := by
  unfold textRun
  by_cases hs : s = ""
  · subst hs
    simp [Flow.take, text?_ofText]
  · simp [hs]

/-- What a text contributes to a property of characters; other tokens contribute nothing. -/
def textChars (token : τ) : List Char :=
  (text? token).elim [] String.toList

theorem flatMap_textRun (s : String) : (textRun s : List τ).flatMap textChars = s.toList := by
  unfold textRun
  by_cases hs : s = ""
  · subst hs
    simp
  · simp [hs, textChars, text?_ofText]

/-- Joining texts leaves the other tokens as they are. -/
theorem filter_joinTexts {p : τ → Bool} (hp : ∀ token s, text? token = some s → p token = false)
    (tokens : List τ) : (joinTexts tokens).filter p = tokens.filter p := by
  have hrun (s : String) : (textRun s).filter p = [] := by
    have hs := hp (ofText s) s (text?_ofText s)
    unfold textRun
    split <;> simp [hs]
  have hflow : ∀ f : Flow τ, (tokens.foldl Flow.take f).tokens.filter p =
      f.met.filter p ++ tokens.filter p := by
    induction tokens with
    | nil => simp [Flow.tokens, hrun]
    | cons token rest ih =>
        intro f
        rw [List.foldl_cons, ih, Flow.take]
        cases htext : text? token with
        | some s => simp [hp token s htext]
        | none =>
            have hcons : (token :: rest).filter p = [token].filter p ++ rest.filter p := by
              rw [← List.filter_append]
              rfl
            simp [hrun, hcons]
  simpa [joinTexts] using hflow ⟨[], ""⟩

/-- Joining texts keeps their characters. -/
theorem textChars_joinTexts (tokens : List τ) :
    (joinTexts tokens).flatMap textChars = tokens.flatMap textChars := by
  have hflow : ∀ f : Flow τ, (tokens.foldl Flow.take f).tokens.flatMap textChars =
      f.met.flatMap textChars ++ f.rest.toList ++ tokens.flatMap textChars := by
    induction tokens with
    | nil => simp [Flow.tokens, flatMap_textRun]
    | cons token rest ih =>
        intro f
        rw [List.foldl_cons, ih, Flow.take]
        cases htext : text? token with
        | some s => simp [textChars, htext]
        | none => simp [textChars, htext, flatMap_textRun]
  simpa [joinTexts] using hflow ⟨[], ""⟩

end StaticSite.Text
