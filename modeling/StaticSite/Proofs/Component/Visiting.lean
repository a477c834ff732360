import StaticSite.Proofs.Component.Assembling

/-!
# How records are visited

Assembling goes through the records twice: a loop takes positions from a stack to find those that
lie below a root, and a recursion builds the forest. Neither counts its turns or remembers where it
was. That both come to an end rests on the links alone, as every position has one parent at most:
the loop never comes to a circle, and the recursion finds every widget in its slot.
-/

namespace StaticSite

variable {records : List Record} {parents : Links}

/-- The loop takes the records whose parent fields lead to a root, and marks no others. -/
theorem LinksOf.mem_reached_iff (hlinks : LinksOf records parents) {i : Nat} :
    i ∈ parents.reached ↔ ∃ r, records[i]? = some r ∧ LeadsToRoot records r := by
  rw [Links.mem_reached_iff]
  constructor
  · intro hrooted
    have hr := List.getElem?_eq_getElem (hlinks.length_eq ▸ hrooted.lt_length)
    exact ⟨_, hr, (hlinks.rooted_iff hr).mp hrooted⟩
  · rintro ⟨r, hr, hleads⟩
    exact (hlinks.rooted_iff hr).mpr hleads

/-- Where all positions lead to a root, the calls take each of them once, so they are as many as
the records, and stand no deeper. -/
theorem Builds.calls_of_rooted {calls : List Call} {forest : Forest} {rest : Slots}
    (h : Builds parents 1 (Slots.ofRecords records) parents.roots calls forest rest)
    (hlength : parents.length = records.length)
    (hrooted : ∀ i < records.length, parents.Rooted i) :
    (calls.map (·.position)).Perm (List.range records.length) ∧
      ∀ call ∈ calls, call.filled = true ∧ call.depth ≤ records.length := by
  obtain ⟨_, hfilled, hnodup, hvisited⟩ := h.of_roots hlength
  have hperm : (calls.map (·.position)).Perm (List.range records.length) := by
    rw [← hlength] at hrooted ⊢
    exact Links.perm_range_of_rooted hnodup hvisited hrooted
  have hcount : calls.length = records.length := by
    simpa using hperm.length_eq
  refine ⟨hperm, ?_⟩
  intro call hcall
  have hdepth := h.depth_lt call hcall
  exact ⟨hfilled call hcall, by omega⟩

/-- With distinct ids and known parents, the loop ends on whatever circles the parents make. It
takes no position twice, and those that it takes are marked: the records that lead to a root. When
all are marked, the recursion asks once for each slot and finds its widget there, and it is never
deeper than there are records. -/
theorem assemble_visits_once (hdistinct : DistinctIds records) (hknown : ParentsKnown records) :
    ∃ parents, links records = .ok parents ∧
      (∃ popped, parents.Pops parents.roots.reverse popped) ∧
      (∀ popped, parents.Pops parents.roots.reverse popped →
        popped.Nodup ∧ parents.reached = popped.reverse ∧
          ∀ i, i ∈ parents.reached ↔ ∃ r, records[i]? = some r ∧ LeadsToRoot records r) ∧
      ((∀ i < records.length, i ∈ parents.reached) →
        (∃ calls forest rest, assemble records = .ok forest ∧
          Builds parents 1 (Slots.ofRecords records) parents.roots calls forest rest) ∧
        ∀ calls forest rest,
          Builds parents 1 (Slots.ofRecords records) parents.roots calls forest rest →
            (calls.map (·.position)).Perm (List.range records.length) ∧
              ∀ call ∈ calls, call.filled = true ∧ call.depth ≤ records.length) := by
  obtain ⟨parents, hparents⟩ := links_isOk_iff.mpr hknown
  have hlinks := linksOf_of_links hdistinct hparents
  refine ⟨parents, hparents, parents.frontier_start.exists_pops, ?_, ?_⟩
  · intro popped hpops
    exact ⟨hpops.nodup, hpops.reached_eq, fun i => hlinks.mem_reached_iff⟩
  · intro hmarked
    have hrooted : ∀ i < records.length, parents.Rooted i :=
      fun i hi => Links.mem_reached_iff.mp (hmarked i hi)
    constructor
    · obtain ⟨calls, hbuilds⟩ := exists_builds parents 1 (Slots.ofRecords records) parents.roots
      exact ⟨calls, _, _, assemble_eq_ok_iff.mpr ⟨hdistinct, parents, hparents, hrooted, rfl⟩,
        hbuilds⟩
    · intro calls forest rest hbuilds
      exact hbuilds.calls_of_rooted hlinks.length_eq hrooted

/-- Two records that name each other, one below them, and one below the only root. -/
def circledRecords : List Record :=
  [⟨{ id := "a", kind := .text }, some "b"⟩, ⟨{ id := "b", kind := .section }, some "c"⟩,
    ⟨{ id := "c", kind := .section }, some "b"⟩, ⟨{ id := "d", kind := .image }, some "e"⟩,
    ⟨{ id := "e", kind := .footer }, none⟩]

/-- Each record is the parent of the one in front of it. -/
def chainedRecords : List Record :=
  [⟨{ id := "a", kind := .text }, some "b"⟩, ⟨{ id := "b", kind := .container }, some "c"⟩,
    ⟨{ id := "c", kind := .section }, none⟩]

theorem circledRecords_chainedRecords_visited :
    (∃ parents popped, links circledRecords = .ok parents ∧
      parents.Pops parents.roots.reverse popped ∧ popped.Nodup ∧ parents.reached = [3, 4]) ∧
    (∃ parents calls forest rest, links chainedRecords = .ok parents ∧
      assemble chainedRecords = .ok forest ∧
      Builds parents 1 (Slots.ofRecords chainedRecords) parents.roots calls forest rest ∧
      (calls.map (·.position)).Perm [0, 1, 2] ∧
      ∀ call ∈ calls, call.filled = true ∧ call.depth ≤ 3) := by
  constructor
  · have hdistinct : DistinctIds circledRecords := by
      unfold DistinctIds
      decide
    have hknown : ParentsKnown circledRecords := by
      simp [ParentsKnown, circledRecords]
    obtain ⟨parents, hparents, ⟨popped, hpops⟩, hloop, _⟩ :=
      assemble_visits_once hdistinct hknown
    have hvalue : links circledRecords = .ok [some 1, some 2, some 1, some 4, none] := by cbv
    rw [hvalue, Except.ok.injEq] at hparents
    subst hparents
    exact ⟨_, popped, hvalue, hpops, (hloop popped hpops).1, by decide⟩
  · have hdistinct : DistinctIds chainedRecords := by
      unfold DistinctIds
      decide
    have hknown : ParentsKnown chainedRecords := by
      simp [ParentsKnown, chainedRecords]
    obtain ⟨parents, hparents, _, _, hrecursion⟩ := assemble_visits_once hdistinct hknown
    have hvalue : links chainedRecords = .ok [some 1, some 2, none] := by cbv
    rw [hvalue, Except.ok.injEq] at hparents
    subst hparents
    obtain ⟨⟨calls, forest, rest, hok, hbuilds⟩, hcalls⟩ := hrecursion (by decide)
    exact ⟨_, calls, forest, rest, hvalue, hok, hbuilds, hcalls calls forest rest hbuilds⟩

end StaticSite
