import Mathlib.Data.List.Forall2

/-!
# Steps that can fail

What a successful run of steps was made of, and where a run that fails has failed.
-/

namespace StaticSite

theorem bind_eq_ok_iff {α β ε : Type} {x : Except ε α} {f : α → Except ε β} {b : β} :
    (x >>= f) = .ok b ↔ ∃ a, x = .ok a ∧ f a = .ok b := by
  cases x with
  | error e => simp [bind, Except.bind]
  | ok a => simp [bind, Except.bind]

theorem map_eq_ok_iff {α β ε : Type} {x : Except ε α} {f : α → β} {b : β} :
    x.map f = .ok b ↔ ∃ a, x = .ok a ∧ f a = b := by
  cases x with
  | error e => simp [Except.map]
  | ok a => simp [Except.map]

theorem mapError_eq_ok_iff {α ε ε' : Type} {x : Except ε α} {f : ε → ε'} {a : α} :
    x.mapError f = .ok a ↔ x = .ok a := by
  cases x with
  | error e => simp [Except.mapError]
  | ok b => simp [Except.mapError]

theorem mapM_eq_ok_iff {α β ε : Type} {f : α → Except ε β} {as : List α} {bs : List β} :
    as.mapM f = .ok bs ↔ List.Forall₂ (fun a b => f a = .ok b) as bs := by
  induction as generalizing bs with
  | nil =>
      rw [List.mapM_nil, List.forall₂_nil_left_iff]
      constructor
      · intro h
        exact (Except.ok.inj h).symm
      · rintro rfl
        rfl
  | cons a rest ih =>
      rw [List.mapM_cons, List.forall₂_cons_left_iff]
      cases hf : f a with
      | error e => simp [bind, Except.bind]
      | ok b =>
          cases hrest : rest.mapM f with
          | error e => simp [bind, Except.bind, ← ih, hrest]
          | ok cs =>
              simp only [bind, Except.bind, pure, Except.pure, Except.ok.injEq, ← ih, hrest]
              constructor
              · rintro rfl
                exact ⟨b, cs, rfl, rfl, rfl⟩
              · rintro ⟨_, _, rfl, rfl, rfl⟩
                rfl

theorem exists_of_mapM_eq_ok {α β ε : Type} {f : α → Except ε β} {as : List α} {bs : List β}
    (h : as.mapM f = .ok bs) : ∀ b ∈ bs, ∃ a ∈ as, f a = .ok b := by
  intro b hb
  obtain ⟨i, hi, rfl⟩ := List.getElem_of_mem hb
  obtain ⟨hlength, hsteps⟩ := List.forall₂_iff_get.mp (mapM_eq_ok_iff.mp h)
  have hi' : i < as.length := hlength ▸ hi
  exact ⟨as.get ⟨i, hi'⟩, List.get_mem as _, hsteps i hi' hi⟩

/-- A run that fails has failed at the first step that does. -/
theorem exists_first_of_mapM_eq_error {α β ε : Type} {f : α → Except ε β} {as : List α} {e : ε}
    (h : as.mapM f = .error e) :
    ∃ before a after, as = before ++ a :: after ∧ (∀ b ∈ before, ∃ c, f b = .ok c) ∧
      f a = .error e := by
  induction as with
  | nil => cases h
  | cons a rest ih =>
      rw [List.mapM_cons] at h
      cases hf : f a with
      | error e' =>
          have he : e' = e := by simpa [hf, bind, Except.bind] using h
          exact ⟨[], a, rest, rfl, by simp, he ▸ hf⟩
      | ok c =>
          have hrest : rest.mapM f = .error e := by
            cases hrest : rest.mapM f with
            | error e' => simpa [hf, hrest, bind, Except.bind] using h
            | ok cs => simp [hf, hrest, bind, Except.bind, pure, Except.pure] at h
          obtain ⟨before, a', after, rfl, hbefore, ha'⟩ := ih hrest
          refine ⟨a :: before, a', after, rfl, ?_, ha'⟩
          rw [List.forall_mem_cons]
          exact ⟨⟨c, hf⟩, hbefore⟩

theorem mapM_eq_error_of_first {α β ε : Type} {f : α → Except ε β} {before after : List α} {a : α}
    {e : ε} (hbefore : ∀ b ∈ before, ∃ c, f b = .ok c) (ha : f a = .error e) :
    (before ++ a :: after).mapM f = .error e := by
  induction before with
  | nil => simp [ha, bind, Except.bind]
  | cons b before ih =>
      rw [List.forall_mem_cons] at hbefore
      obtain ⟨⟨c, hc⟩, hbefore⟩ := hbefore
      rw [List.cons_append, List.mapM_cons, hc, ih hbefore]
      rfl

end StaticSite
