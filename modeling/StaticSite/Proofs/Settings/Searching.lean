import StaticSite.Settings.Load

/-!
# The settings file of a run

Going up from the working directory, the first settings file met is the nearest one: whatever
stands above the working directory, and is not above that file's directory, has none.
-/

namespace StaticSite

namespace Location

theorem mem_upwards {cwd above : Location} : above ∈ cwd.upwards ↔ above <+: cwd := by
  rw [upwards, List.mem_map]
  constructor
  · rintro ⟨n, _, rfl⟩
    exact List.take_prefix n cwd
  · intro habove
    refine ⟨above.length, ?_, (List.prefix_iff_eq_take.mp habove).symm⟩
    rw [List.mem_reverse, List.mem_range]
    exact Nat.lt_succ_of_le habove.length_le

theorem upwards_pairwise (cwd : Location) : cwd.upwards.Pairwise fun a b => b <+: a := by
  rw [upwards, List.pairwise_map, List.pairwise_reverse]
  apply List.pairwise_lt_range.imp
  intro n m hnm
  exact List.take_prefix_take_left (Nat.le_of_lt hnm)

end Location

namespace Settings

/-- The nearest location with a settings file, of a working directory and those above it. -/
structure IsNearest (disk : Disk) (cwd above : Location) : Prop where
  isPrefix : above <+: cwd
  present : (disk.at? (above ++ [fileName])).isSome
  nearest : ∀ other, other <+: cwd → (disk.at? (other ++ [fileName])).isSome → other <+: above

/-- The file that a run has its settings from: the one that is named, or else the nearest one. -/
def IsUsed (disk : Disk) (cwd : Location) (path : Option String) (file : String) : Prop :=
  path = some file ∨ path = none ∧ ∃ above, IsNearest disk cwd above ∧
    file = Path.join (Location.path above) fileName

variable {disk : Disk} {cwd : Location} {path : Option String} {file : String}

theorem IsNearest.unique {a b : Location} (ha : IsNearest disk cwd a) (hb : IsNearest disk cwd b) :
    a = b :=
  (hb.nearest a ha.isPrefix ha.present).eq_of_length_le
    (ha.nearest b hb.isPrefix hb.present).length_le

theorem find?_upwards_eq_some_iff {above : Location} :
    (Location.upwards cwd).find? (fun l => (disk.at? (l ++ [fileName])).isSome) = some above ↔
      IsNearest disk cwd above := by
  have hfirst : ∀ {l}, (Location.upwards cwd).find?
      (fun l => (disk.at? (l ++ [fileName])).isSome) = some l → IsNearest disk cwd l := by
    intro l hl
    obtain ⟨hpresent, before, behind, hsplit, hbefore⟩ := List.find?_eq_some_iff_append.mp hl
    have hordered := cwd.upwards_pairwise
    rw [hsplit, List.pairwise_append, List.pairwise_cons] at hordered
    refine ⟨Location.mem_upwards.mp (by simp [hsplit]), hpresent, ?_⟩
    intro other hother hfile
    have hmem := Location.mem_upwards.mpr hother
    rw [hsplit, List.mem_append, List.mem_cons] at hmem
    rcases hmem with hmem | rfl | hmem
    · have hnone := hbefore other hmem
      simp [hfile] at hnone
    · exact List.prefix_rfl
    · exact hordered.2.1.1 other hmem
  constructor
  · exact hfirst
  · intro h
    have hfound : ((Location.upwards cwd).find?
        (fun l => (disk.at? (l ++ [fileName])).isSome)).isSome := by
      rw [List.find?_isSome]
      exact ⟨above, Location.mem_upwards.mpr h.isPrefix, h.present⟩
    obtain ⟨l, hl⟩ := Option.isSome_iff_exists.mp hfound
    rw [hl, (hfirst hl).unique h]

theorem search?_eq_some_iff :
    search? disk cwd = some file ↔
      ∃ above, IsNearest disk cwd above ∧ file = Path.join (Location.path above) fileName := by
  rw [search?, Option.map_eq_some_iff]
  simp only [find?_upwards_eq_some_iff]
  constructor
  · rintro ⟨above, hnearest, rfl⟩
    exact ⟨above, hnearest, rfl⟩
  · rintro ⟨above, hnearest, rfl⟩
    exact ⟨above, hnearest, rfl⟩

theorem isUsed_iff : IsUsed disk cwd path file ↔ path.or (search? disk cwd) = some file := by
  cases path with
  | none => simp [IsUsed, search?_eq_some_iff]
  | some named => simp [IsUsed]

theorem IsUsed.unique {other : String} (h : IsUsed disk cwd path file)
    (hother : IsUsed disk cwd path other) : file = other :=
  Option.some.inj ((isUsed_iff.mp h).symm.trans (isUsed_iff.mp hother))

end Settings

end StaticSite
