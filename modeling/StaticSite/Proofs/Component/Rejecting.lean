import Mathlib.Logic.Relation
import StaticSite.Proofs.Component.Assembling

/-!
# Records that are refused

`Fault` says what an error tells of the records. Ids and parents are gone through in the order of
the records, so the first one at fault is named. Below a circle there may be a tail of any length;
the search for the circle starts somewhere on it, and `Links.Trail` is what it keeps: all positions
seen lead to where it stands. So a position that comes again lies on the circle.
-/

namespace StaticSite

/-- The parent field of the first record names the second one. -/
def HasParent (records : List Record) (r p : Record) : Prop :=
  p ∈ records ∧ r.parent = some p.widget.id

/-- What an error tells. Ids are looked at first, then parents, then circles. -/
inductive Fault (records : List Record) : TreeError → Prop
  | duplicateId {id : String} (hrepeat : FirstRepeat (records.map (·.widget.id)) id) :
      Fault records (.duplicateId id)
  | unknownParent (hdistinct : DistinctIds records) {before after : List Record} {r : Record}
      {parent : String} (hsplit : records = before ++ r :: after)
      (hbefore : ∀ s ∈ before, ∀ id, s.parent = some id → ∃ p ∈ records, p.widget.id = id)
      (hparent : r.parent = some parent) (hunknown : ∀ p ∈ records, p.widget.id ≠ parent) :
      Fault records (.unknownParent r.widget.id parent)
  /-- From the record itself the parent fields lead back to it, in one step or more. -/
  | cycle (hdistinct : DistinctIds records) (hknown : ParentsKnown records) {r : Record}
      (hr : r ∈ records) (hcycle : Relation.TransGen (HasParent records) r r) :
      Fault records (.cycle r.widget.id)

/-! ## The first record at fault -/

theorem firstRepeat_of_duplicateId? {seen : List String} (hseen : seen.Nodup)
    {records : List Record} {id : String} (h : duplicateId? seen records = some id) :
    FirstRepeat (seen.reverse ++ records.map (·.widget.id)) id := by
  induction records generalizing seen with
  | nil => cases h
  | cons r rest ih =>
      rw [duplicateId?] at h
      split_ifs at h with hrepeat
      · rw [Option.some.injEq] at h
        subst h
        exact ⟨seen.reverse, rest.map (·.widget.id), rfl, List.nodup_reverse.mpr hseen,
          by simpa using hrepeat⟩
      · have hfresh : r.widget.id ∉ seen := by simpa using hrepeat
        simpa using ih (List.nodup_cons.mpr ⟨hfresh, hseen⟩) h

theorem parentOf_eq_error {records : List Record} {r : Record} {e : TreeError}
    (h : parentOf records r = .error e) :
    ∃ parent, r.parent = some parent ∧ (∀ p ∈ records, p.widget.id ≠ parent) ∧
      e = .unknownParent r.widget.id parent := by
  unfold parentOf at h
  split at h
  · cases h
  next parent hparent =>
    split at h
    · cases h
    next hposition =>
      refine ⟨parent, hparent, ?_, (Except.error.inj h).symm⟩
      simpa [positionOf?] using hposition

theorem fault_of_links {records : List Record} (hdistinct : DistinctIds records) {e : TreeError}
    (h : links records = .error e) : Fault records e := by
  obtain ⟨before, r, after, hsplit, hbefore, hr⟩ := exists_first_of_mapM_eq_error h
  obtain ⟨parent, hparent, hunknown, rfl⟩ := parentOf_eq_error hr
  exact .unknownParent hdistinct hsplit (fun s hs => parentOf_isOk_iff.mp (hbefore s hs)) hparent
    hunknown

/-! ## Circles -/

namespace Links

variable {parents : Links}

def HasParent (parents : Links) (i p : Nat) : Prop :=
  parents[i]? = some (some p)

/-- The search came by the positions seen, and none of them leads to a root. -/
structure Trail (parents : Links) (seen : List Nat) (position : Nat) : Prop where
  nodup : seen.Nodup
  seen_lt : ∀ i ∈ seen, i < parents.length
  leads : ∀ i ∈ seen, Relation.TransGen parents.HasParent i position
  position_lt : position < parents.length
  unrooted : ¬ parents.Rooted position

theorem Trail.step {seen : List Nat} {position parent : Nat} (h : parents.Trail seen position)
    (hnew : position ∉ seen) (hlink : parents[position]? = some (some parent))
    (hparent : parent < parents.length) : parents.Trail (position :: seen) parent := by
  constructor
  · exact List.nodup_cons.mpr ⟨hnew, h.nodup⟩
  · exact List.forall_mem_cons.mpr ⟨h.position_lt, h.seen_lt⟩
  · exact List.forall_mem_cons.mpr ⟨.single hlink, fun i hi => (h.leads i hi).tail hlink⟩
  · exact hparent
  · exact fun hrooted => h.unrooted (.child hlink hrooted)

theorem Trail.length_le {seen : List Nat} {position : Nat} (h : parents.Trail seen position) :
    seen.length ≤ parents.length :=
  length_le_of_nodup h.nodup h.seen_lt

/-- There are more steps than positions, so the search ends at a position that comes again. It
never meets a root. -/
theorem Trail.cycleMember (hclosed : ∀ i p, parents.HasParent i p → p < parents.length)
    {steps : Nat} {seen : List Nat} {position : Nat} (h : parents.Trail seen position)
    (hsteps : parents.length < steps + seen.length) :
    parents.cycleMember steps seen position < parents.length ∧
      Relation.TransGen parents.HasParent (parents.cycleMember steps seen position)
        (parents.cycleMember steps seen position) := by
  induction steps generalizing seen position with
  | zero =>
      have hlength := h.length_le
      omega
  | succ steps ih =>
      rw [Links.cycleMember]
      split_ifs with hseen
      · exact ⟨h.position_lt, h.leads position (by simpa using hseen)⟩
      · have hnew : position ∉ seen := by simpa using hseen
        obtain ⟨link, hlink⟩ : ∃ link, parents[position]? = some link :=
          ⟨_, List.getElem?_eq_getElem h.position_lt⟩
        cases link with
        | none => exact absurd (.root hlink) h.unrooted
        | some parent =>
            rw [hlink]
            apply ih (h.step hnew hlink (hclosed position parent hlink))
            rw [List.length_cons]
            omega

theorem trail_of_unrooted {start : Nat} (hstart : start < parents.length)
    (hunrooted : ¬ parents.Rooted start) : parents.Trail [] start :=
  ⟨List.nodup_nil, by simp, by simp, hstart, hunrooted⟩

end Links

theorem LinksOf.hasParent {records : List Record} {parents : Links}
    (hlinks : LinksOf records parents) {i p : Nat} {r : Record} (hr : records[i]? = some r)
    (h : parents.HasParent i p) : ∃ q, records[p]? = some q ∧ HasParent records r q := by
  obtain ⟨q, hq⟩ : ∃ q, records[p]? = some q :=
    ⟨_, List.getElem?_eq_getElem (hlinks.parent_lt i p h)⟩
  exact ⟨q, hq, List.mem_of_getElem? hq, (hlinks.child_iff i p r q hr hq).mp h⟩

theorem LinksOf.transGen_hasParent {records : List Record} {parents : Links}
    (hlinks : LinksOf records parents) {i j : Nat} {r : Record} (hr : records[i]? = some r)
    (h : Relation.TransGen parents.HasParent i j) :
    ∃ s, records[j]? = some s ∧ Relation.TransGen (HasParent records) r s := by
  induction h with
  | single hlink =>
      obtain ⟨s, hs, hparent⟩ := hlinks.hasParent hr hlink
      exact ⟨s, hs, .single hparent⟩
  | tail _ hlink ih =>
      obtain ⟨s, hs, hchain⟩ := ih
      obtain ⟨t, ht, hparent⟩ := hlinks.hasParent hs hlink
      exact ⟨t, ht, hchain.tail hparent⟩

theorem fault_of_unreached {records : List Record} {parents : Links}
    (hdistinct : DistinctIds records) (hlinks : links records = .ok parents) {start : Nat}
    (hstart : start < records.length) (hunrooted : ¬ parents.Rooted start) :
    Fault records (.cycle (cycleId records parents start)) := by
  have hlinksOf := linksOf_of_links hdistinct hlinks
  have htrail : parents.Trail [] start :=
    Links.trail_of_unrooted (hlinksOf.length_eq ▸ hstart) hunrooted
  have hclosed : ∀ i p, parents.HasParent i p → p < parents.length :=
    fun i p h => hlinksOf.length_eq ▸ hlinksOf.parent_lt i p h
  obtain ⟨hmember, hcycle⟩ := htrail.cycleMember hclosed (Nat.lt_succ_self parents.length)
  obtain ⟨r, hr⟩ : ∃ r, records[parents.cycleMember (parents.length + 1) [] start]? = some r :=
    ⟨_, List.getElem?_eq_getElem (hlinksOf.length_eq ▸ hmember)⟩
  obtain ⟨s, hs, hchain⟩ := hlinksOf.transGen_hasParent hr hcycle
  obtain rfl : r = s := by simpa [hr] using hs
  have hid : cycleId records parents start = r.widget.id := by simp [cycleId, hr]
  rw [hid]
  exact .cycle hdistinct (links_isOk_iff.mp ⟨parents, hlinks⟩) (List.mem_of_getElem? hr) hchain

/-- A record that leads to a root is on no circle, for there is one way up only. -/
theorem LeadsToRoot.not_cycle {records : List Record} (hdistinct : DistinctIds records)
    {r : Record} (h : LeadsToRoot records r) :
    ¬ Relation.TransGen (HasParent records) r r := by
  induction h with
  | root hparent =>
      intro hcycle
      obtain ⟨p, ⟨_, hnamed⟩, _⟩ := Relation.TransGen.head'_iff.mp hcycle
      simp [hparent] at hnamed
  | @child r p hparent hmem _ ih =>
      intro hcycle
      obtain ⟨q, ⟨hq, hnamed⟩, hback⟩ := Relation.TransGen.head'_iff.mp hcycle
      rw [hparent, Option.some.injEq] at hnamed
      have hsame : p = q := List.inj_on_of_nodup_map hdistinct hmem hq hnamed
      subst hsame
      exact ih (Relation.TransGen.tail' hback ⟨hmem, hparent⟩)

/-! ## Refusing -/

theorem fault_of_error {records : List Record} {e : TreeError}
    (h : assemble records = .error e) : Fault records e := by
  unfold assemble at h
  split at h
  next id hid =>
    cases h
    exact .duplicateId (by simpa using firstRepeat_of_duplicateId? List.nodup_nil hid)
  next hnone =>
    have hdistinct : DistinctIds records := (duplicateId?_eq_none_iff.mp hnone).1
    cases hlinks : links records with
    | error e' =>
        rw [hlinks] at h
        cases h
        exact fault_of_links hdistinct hlinks
    | ok parents =>
        simp only [hlinks, bind, Except.bind] at h
        split at h
        next start hstart =>
          cases h
          have hunreached := List.find?_some hstart
          refine fault_of_unreached hdistinct hlinks
            (List.mem_range.mp (List.mem_of_find?_eq_some hstart)) ?_
          simpa [Links.mem_reached_iff] using hunreached
        next => cases h

theorem Fault.not_wellLinked {records : List Record} {e : TreeError} (h : Fault records e) :
    ¬ WellLinked records := by
  intro hwell
  cases h with
  | duplicateId hrepeat => exact hrepeat.not_nodup hwell.distinct
  | @unknownParent _ _ _ r parent hsplit _ hparent hunknown =>
      have hr : r ∈ records := by simp [hsplit]
      obtain ⟨p, hp, hid⟩ := hwell.known r hr parent hparent
      exact hunknown p hp hid
  | @cycle hdistinct _ r hr hcycle => exact (hwell.leads r hr).not_cycle hdistinct hcycle

/-- Records are refused exactly for a fault, and the error tells it: the first id that comes again,
or else the first parent that is unknown, or else a record on a circle. -/
theorem assemble_faults (records : List Record) :
    (∀ e, assemble records = .error e → Fault records e) ∧
      ((∃ e, Fault records e) → ∃ e, assemble records = .error e) := by
  constructor
  · intro e h
    exact fault_of_error h
  · rintro ⟨e, hfault⟩
    cases hresult : assemble records with
    | error e' => exact ⟨e', rfl⟩
    | ok forest =>
        exact absurd (assemble_isOk_iff_wellLinked.mp ⟨forest, hresult⟩) hfault.not_wellLinked

/-- The search starts at the end of a tail, and the circle is two steps away. -/
def tailedRecords : List Record :=
  [⟨{ id := "tail", kind := .text }, some "bridge"⟩, ⟨{ id := "root", kind := .section }, none⟩,
    ⟨{ id := "bridge", kind := .container }, some "left"⟩,
    ⟨{ id := "left", kind := .header }, some "right"⟩,
    ⟨{ id := "right", kind := .footer }, some "left"⟩]

theorem tailedRecords_fault : assemble tailedRecords = .error (.cycle "left") ∧
    Fault tailedRecords (.cycle "left") := by
  have herror : assemble tailedRecords = .error (.cycle "left") := by cbv
  exact ⟨herror, (assemble_faults tailedRecords).1 _ herror⟩

end StaticSite
