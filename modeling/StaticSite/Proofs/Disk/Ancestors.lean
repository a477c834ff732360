import Mathlib.Logic.Relation
import StaticSite.Proofs.Disk.Containment

/-!
# The paths above a path

A path has another one above it, and that one may have another one above it in turn, up to the
root or to the empty path. The places that a walk along the path comes by are the places of these
paths, its own included, so making the missing ones makes missing ancestors of a directory.
-/

namespace StaticSite

namespace Path

/-- The path above another one, or one that is further up. -/
def IsAbove (above path : String) : Prop :=
  Relation.TransGen (fun path above => parent? path = some above) path above

variable {cwd l : Location} {path above upper : String}

theorem IsAbove.parent (habove : parent? path = some above) : IsAbove above path :=
  Relation.TransGen.single habove

theorem not_isAbove (htop : parent? path = none) : ¬ IsAbove upper path := by
  intro h
  obtain ⟨above, habove, _⟩ := Relation.TransGen.head'_iff.mp h
  rw [htop] at habove
  cases habove

theorem isAbove_iff (habove : parent? path = some above) :
    IsAbove upper path ↔ upper = above ∨ IsAbove upper above := by
  constructor
  · intro h
    obtain ⟨next, hnext, hrest⟩ := Relation.TransGen.head'_iff.mp h
    obtain rfl : above = next := Option.some.inj (habove.symm.trans hnext)
    exact Relation.reflTransGen_iff_eq_or_transGen.mp hrest
  · rintro (rfl | h)
    · exact .parent habove
    · exact Relation.TransGen.head habove h

/-! ## How far up it goes -/

/-- The number of segments that count. The empty path is above all names and has none. -/
def depth (path : String) : Nat :=
  if path = "" then 0 else (dropIdle (segments path)).length

theorem depth_parent_lt (habove : parent? path = some above) : depth above < depth path := by
  have hne := ne_empty_of_parent habove
  obtain ⟨front, last, hdropped, ⟨_, _, rfl⟩ | ⟨hfront, rfl⟩⟩ := exists_front_of_parent habove
  · rw [depth, if_pos rfl, depth, if_neg hne, hdropped]
    simp
  · have hpath : depth path = front.length + 1 := by
      rw [depth, if_neg hne, hdropped, List.length_append, List.length_singleton]
    have hpositive : 0 < front.length := List.length_pos_iff.mpr hfront
    by_cases hroot : dropIdle front = [""]
    · have hdepth : depth (ofSegments [""]) = 1 := by decide
      rw [hroot, hdepth, hpath]
      omega
    · obtain ⟨rest, hwhole⟩ := dropIdle_front_prefix hdropped
      have hdepth : depth (ofSegments (dropIdle front)) ≤ (dropIdle (dropIdle front)).length := by
        rw [depth, segments_front hwhole.symm (dropIdle_ne_nil hfront) hroot]
        split_ifs
        · exact Nat.zero_le _
        · exact le_rfl
      have hinner := dropIdle_prefix (dropIdle front)
      have houter := dropIdle_prefix front
      have hshort := (hinner.trans houter).length_le
      omega

/-! ## The places of the paths above -/

theorem mem_stops_of_parent (habove : parent? path = some above) :
    l ∈ (start cwd path).stops (segments path) ↔
      l = goal cwd path ∨ l ∈ (start cwd above).stops (segments above) := by
  obtain ⟨front, last, hdropped, _⟩ := exists_front_of_parent habove
  rw [mem_stops_parent habove, ← Location.mem_stops_dropIdle, goal,
    ← Location.follow_dropIdle, hdropped, List.dropLast_concat, Location.mem_stops_snoc, or_comm]

/-- Above the root and the empty path there is nothing, and their walks stay where they are. -/
theorem mem_stops_of_top (htop : parent? path = none) :
    l ∈ (start cwd path).stops (segments path) ↔ l = goal cwd path := by
  have hidle : ∀ s ∈ dropIdle (segments path), isIdle s = true := by
    rw [parent?] at htop
    split at htop
    next hdropped => simp [hdropped]
    next first hdropped =>
      split_ifs at htop with hfirst
      simp [hdropped, isIdle, String.isEmpty_iff.mp hfirst]
    · cases htop
  rw [← Location.mem_stops_dropIdle, Location.mem_stops_idle hidle, goal,
    ← Location.follow_dropIdle, Location.follow_idle _ hidle]

/-- A walk along a path comes by the places of the paths above it, and by no other ones. -/
theorem mem_stops_iff (cwd l : Location) (path : String) :
    l ∈ (start cwd path).stops (segments path) ↔
      l = goal cwd path ∨ ∃ above, IsAbove above path ∧ l = goal cwd above := by
  induction hdepth : depth path using Nat.strong_induction_on generalizing path with
  | _ n ih =>
      cases hparent : parent? path with
      | none => simp [mem_stops_of_top hparent, not_isAbove hparent]
      | some above =>
          have hlower : depth above < n := hdepth ▸ depth_parent_lt hparent
          simp [mem_stops_of_parent hparent, isAbove_iff hparent, ih _ hlower above rfl,
            or_and_right, exists_or]

end Path

namespace Disk

variable {disk after : Disk} {cwd : Location} {dir : String} {files : FileMap}

/-- What stands at a directory and below it may be different, and paths above it that were missing
may be directories now. Nothing else changed. The places of the paths above are on the way down to
the directory, unless its path goes up somewhere. -/
def ChangesBelow (disk after : Disk) (cwd : Location) (dir : String) : Prop :=
  ∀ l, after.at? l = disk.at? l ∨ Path.goal cwd dir <+: l ∨
    ∃ above, Path.IsAbove above dir ∧ l = Path.goal cwd above ∧
      (".." ∉ Path.segments dir → l <+: Path.goal cwd dir) ∧
      disk.at? l = none ∧ after.at? l = some .directory

theorem changesBelow_of_fate (hpaths : ∀ a ∈ files, Path.isContained a.1 = true)
    (hfate : ∀ l, Fate disk after cwd dir files l) : disk.ChangesBelow after cwd dir := by
  intro l
  cases hfate l with
  | kept hsame => exact Or.inl hsame
  | opened hmissing hdirectory _ hneeded =>
      right
      rcases hneeded with hstop | ⟨names, _, _, _, rfl⟩
      · rcases (Path.mem_stops_iff cwd l dir).mp hstop with rfl | ⟨above, habove, hplace⟩
        · exact Or.inl List.prefix_rfl
        · exact Or.inr ⟨above, habove, hplace, fun hup => Path.stops_isPrefix hup hstop, hmissing,
            hdirectory⟩
      · exact Or.inl (List.prefix_append _ names)
  | @written _ a ha hplace _ =>
      rw [Path.goal_join cwd dir (hpaths a ha)] at hplace
      rw [hplace]
      exact Or.inr (Or.inl (List.prefix_append _ _))

end Disk

end StaticSite
