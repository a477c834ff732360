import StaticSite.Proofs.Component.Flattening
import StaticSite.Proofs.Component.Rejecting

/-!
# Records in another order

Which records become a forest, and why others do not, hangs on no order at all. Of the order of
the records a forest keeps only that of siblings.
-/

namespace StaticSite

/-- How assembling ends, without the ids that an error names. -/
inductive Outcome
  | forest
  | duplicateId
  | unknownParent
  | cycle

def TreeError.outcome : TreeError → Outcome
  | .duplicateId _ => .duplicateId
  | .unknownParent _ _ => .unknownParent
  | .cycle _ => .cycle

def Outcome.ofResult : Except TreeError Forest → Outcome
  | .ok _ => .forest
  | .error e => e.outcome

/-- What the records of each outcome have in common. Ids are looked at first, then parents. -/
def Outcome.Fits (records : List Record) : Outcome → Prop
  | .duplicateId => ¬ DistinctIds records
  | .unknownParent => DistinctIds records ∧ ¬ ParentsKnown records
  | .cycle => DistinctIds records ∧ ParentsKnown records ∧ ¬ WellLinked records
  | .forest => WellLinked records

theorem Outcome.Fits.unique {records : List Record} {a b : Outcome} (ha : a.Fits records)
    (hb : b.Fits records) : a = b := by
  have hdistinct : WellLinked records → DistinctIds records := WellLinked.distinct
  have hknown : WellLinked records → ParentsKnown records := WellLinked.known
  cases a <;> cases b <;> simp only [Outcome.Fits] at ha hb <;> first | rfl | tauto

theorem Outcome.Fits.perm {records others : List Record} (hperm : records.Perm others)
    {o : Outcome} (h : o.Fits records) : o.Fits others := by
  have hdistinct : DistinctIds records ↔ DistinctIds others := (hperm.map _).nodup_iff
  have hknown : ParentsKnown records ↔ ParentsKnown others := by
    simp only [ParentsKnown, hperm.mem_iff]
  have hwell : WellLinked records ↔ WellLinked others :=
    ⟨fun h => h.perm hperm.symm, fun h => h.perm hperm⟩
  cases o <;> simpa only [Outcome.Fits, hdistinct, hknown, hwell] using h

/-! ## Errors -/

theorem Fault.fits {records : List Record} {e : TreeError} (h : Fault records e) :
    e.outcome.Fits records := by
  have hwell : ¬ WellLinked records := h.not_wellLinked
  cases h with
  | duplicateId hrepeat => exact hrepeat.not_nodup
  | unknownParent hdistinct hsplit _ hparent hunknown =>
      refine ⟨hdistinct, fun hknown => ?_⟩
      obtain ⟨p, hp, hid⟩ := hknown _ (by simp [hsplit]) _ hparent
      exact hunknown p hp hid
  | cycle hdistinct hknown => exact ⟨hdistinct, hknown, hwell⟩

theorem Outcome.fits_assemble (records : List Record) :
    (Outcome.ofResult (assemble records)).Fits records := by
  cases hresult : assemble records with
  | ok forest => exact assemble_isOk_iff_wellLinked.mp ⟨forest, hresult⟩
  | error e => exact (fault_of_error hresult).fits

theorem assemble_outcome_perm {records others : List Record} (hperm : records.Perm others) :
    Outcome.ofResult (assemble records) = Outcome.ofResult (assemble others) :=
  ((Outcome.fits_assemble records).perm hperm).unique (Outcome.fits_assemble others)

/-! ## Siblings in their order -/

theorem assemble_keepsSiblings {records others : List Record}
    (hkeeps : KeepsSiblings records others) :
    (∃ forest, assemble records = .ok forest ∧ assemble others = .ok forest) ∨
      (∃ e, assemble records = .error e) ∧ ∃ e, assemble others = .error e := by
  have houtcome := assemble_outcome_perm hkeeps.perm
  cases hrecords : assemble records with
  | ok forest =>
      cases hothers : assemble others with
      | ok forest' =>
          have hsame := (assembled_of_ok hrecords).forest_unique (assembled_of_ok hothers) hkeeps
          exact .inl ⟨forest, rfl, by rw [hsame]⟩
      | error e =>
          rw [hrecords, hothers] at houtcome
          cases e <;> cases houtcome
  | error e =>
      cases hothers : assemble others with
      | ok forest =>
          rw [hrecords, hothers] at houtcome
          cases e <;> cases houtcome
      | error e' => exact .inr ⟨⟨e, rfl⟩, e', rfl⟩

/-- A forest comes back from its records, in any order that keeps siblings. So of the order of some
records only that of siblings matters for the forest, and nothing of it for how assembling ends. -/
theorem assemble_reordered :
    (∀ (forest : Forest) (records : List Record), forest.ids.Nodup →
        KeepsSiblings records (forest.records none) → assemble records = .ok forest) ∧
      (∀ records others : List Record, KeepsSiblings records others →
        (∃ forest, assemble records = .ok forest ∧ assemble others = .ok forest) ∨
          (∃ e, assemble records = .error e) ∧ ∃ e, assemble others = .error e) ∧
      ∀ records others : List Record, records.Perm others →
        Outcome.ofResult (assemble records) = Outcome.ofResult (assemble others) :=
  ⟨fun _ _ hids hkeeps => assemble_flattened hids hkeeps,
    fun _ _ hkeeps => assemble_keepsSiblings hkeeps,
    fun _ _ hperm => assemble_outcome_perm hperm⟩

/-- Two trees with two levels below the first root. -/
def twoTrees : Forest :=
  [⟨{ id := "a", kind := .section },
      [⟨{ id := "b", kind := .container }, [⟨{ id := "d", kind := .text }, []⟩]⟩,
        ⟨{ id := "c", kind := .image }, []⟩]⟩,
    ⟨{ id := "e", kind := .footer }, [⟨{ id := "f", kind := .text }, []⟩]⟩]

/-- Its records, all children in front of their parents and the trees mixed. -/
def shuffledRecords : List Record :=
  [⟨{ id := "d", kind := .text }, some "b"⟩, ⟨{ id := "f", kind := .text }, some "e"⟩,
    ⟨{ id := "b", kind := .container }, some "a"⟩, ⟨{ id := "a", kind := .section }, none⟩,
    ⟨{ id := "c", kind := .image }, some "a"⟩, ⟨{ id := "e", kind := .footer }, none⟩]

theorem shuffledRecords_keepsSiblings :
    KeepsSiblings shuffledRecords (twoTrees.records none) := by
  have hpositions : [2, 5, 1, 0, 3, 4].Perm (List.range (twoTrees.records none).length) := by
    decide
  have hshuffled : shuffledRecords =
      [2, 5, 1, 0, 3, 4].filterMap ((twoTrees.records none)[·]?) := rfl
  constructor
  · rw [hshuffled]
    simpa only [LinksOf.filterMap_range] using hpositions.filterMap ((twoTrees.records none)[·]?)
  · intro parent
    by_cases hparent : parent ∈ [none, some "a", some "b", some "e"]
    · simp only [List.mem_cons, List.not_mem_nil, or_false] at hparent
      rcases hparent with rfl | rfl | rfl | rfl <;> rfl
    · have hnobody : ∀ records : List Record,
          (∀ r ∈ records, r.parent ∈ [none, some "a", some "b", some "e"]) →
            records.filter (fun r => r.parent = parent) = [] := by
        intro records hrecords
        rw [List.filter_eq_nil_iff]
        intro r hr hnamed
        exact hparent (of_decide_eq_true hnamed ▸ hrecords r hr)
      rw [hnobody _ (by decide), hnobody _ (by decide)]

theorem shuffledRecords_assembled : twoTrees.ids.Nodup ∧
    KeepsSiblings shuffledRecords (twoTrees.records none) ∧
      assemble shuffledRecords = .ok twoTrees := by
  have hids : twoTrees.ids.Nodup := by decide
  exact ⟨hids, shuffledRecords_keepsSiblings,
    assemble_reordered.1 twoTrees shuffledRecords hids shuffledRecords_keepsSiblings⟩

end StaticSite
