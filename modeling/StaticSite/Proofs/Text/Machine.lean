import StaticSite.Text.Escape

/-!
# Machines that read texts

A machine takes a text character by character and fails where it has no step. Reading two texts
one behind the other is reading the first and then the second.
-/

namespace StaticSite.Text

variable {σ : Type} {step : σ → Char → Option σ}

/-- The state of a machine behind a text. -/
def read (step : σ → Char → Option σ) (state : σ) (s : String) : Option σ :=
  s.toList.foldlM step state

@[simp] theorem read_empty (state : σ) : read step state "" = some state := rfl

theorem read_append (state : σ) (a b : String) :
    read step state (a ++ b) = (read step state a).bind (read step · b) := by
  simp [read, List.foldlM_append]

/-- What changes nothing about any step changes nothing about a whole run. -/
theorem foldlM_map {f : σ → σ} (hstep : ∀ state c, step (f state) c = (step state c).map f)
    (state : σ) (cs : List Char) : cs.foldlM step (f state) = (cs.foldlM step state).map f := by
  induction cs generalizing state with
  | nil => rfl
  | cons c rest ih =>
      rw [List.foldlM_cons, List.foldlM_cons, hstep]
      cases step state c with
      | none => rfl
      | some next => exact ih next

theorem read_map {f : σ → σ} (hstep : ∀ state c, step (f state) c = (step state c).map f)
    (state : σ) (s : String) : read step (f state) s = (read step state s).map f :=
  foldlM_map hstep state s.toList

/-- What every step keeps holds of every state that is reached. -/
theorem read_invariant {P : σ → Prop}
    (hstep : ∀ state c next, P state → step state c = some next → P next)
    {state last : σ} (hstate : P state) {s : String} (hread : read step state s = some last) :
    P last := by
  rw [read] at hread
  revert hread
  induction s.toList generalizing state with
  | nil =>
      intro hread
      obtain rfl := Option.some.inj hread
      exact hstate
  | cons c rest ih =>
      intro hread
      rw [List.foldlM_cons, Option.bind_eq_bind, Option.bind_eq_some_iff] at hread
      obtain ⟨next, hnext, hrest⟩ := hread
      exact ih (hstep state c next hstate hnext) hrest

/-- A machine that gathers characters, each in its escaped form, takes an escaped text in one go. -/
theorem read_escaped {g : List Char → σ} {keeps : Char → Prop} {e : Char → List Char}
    (hstep : ∀ chars c, keeps c →
      (e c).foldlM step (g chars) = some (g (chars ++ [c])))
    (chars : List Char) {s : String} (hs : ∀ c ∈ s.toList, keeps c) :
    read step (g chars) (escapeWith e s) = some (g (chars ++ s.toList)) := by
  rw [read, escapeWith, String.toList_ofList]
  revert hs
  induction s.toList generalizing chars with
  | nil => simp
  | cons c rest ih =>
      intro hs
      have hrest : ∀ d ∈ rest, keeps d := fun d hd => hs d (List.mem_cons_of_mem c hd)
      rw [List.flatMap_cons, List.foldlM_append, hstep chars c (hs c List.mem_cons_self),
        Option.bind_eq_bind, Option.bind_some, ih _ hrest]
      simp

theorem read_gather {g : List Char → σ} {keeps : Char → Prop}
    (hstep : ∀ chars c, keeps c → step (g chars) c = some (g (chars ++ [c])))
    (chars : List Char) {s : String} (hs : ∀ c ∈ s.toList, keeps c) :
    read step (g chars) s = some (g (chars ++ s.toList)) := by
  have hplain : escapeWith (fun c => [c]) s = s := by
    simp [escapeWith]
  have hsingle : ∀ chars c, keeps c →
      [c].foldlM step (g chars) = some (g (chars ++ [c])) := by
    intro chars c hc
    simp [hstep chars c hc]
  have hread := read_escaped (e := fun c => [c]) hsingle chars hs
  rwa [hplain] at hread

end StaticSite.Text
