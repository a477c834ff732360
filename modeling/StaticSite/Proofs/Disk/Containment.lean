import StaticSite.Proofs.Disk.Changing
import StaticSite.Proofs.Site.FileMaps
import StaticSite.Proofs.Text.Bytes

/-!
# Deliveries stay below their directory

All paths are checked before anything is written, in ascending order of their bytes. So a delivery
with an unsafe path names the first of them and leaves the disk alone. Any other delivery changes
the directory, what is above and below it on the way to its files, and the places of the files,
even if it stops half way.
-/

namespace StaticSite

/-- A path that is empty, absolute, or goes up somewhere. -/
def Path.IsUnsafe (path : String) : Prop :=
  path = "" ∨ isAbsolute path = true ∨ ".." ∈ segments path

instance (path : String) : Decidable (Path.IsUnsafe path) :=
  inferInstanceAs (Decidable (_ ∨ _ ∨ _))

theorem Path.isUnsafe_iff {path : String} : IsUnsafe path ↔ isContained path = false := by
  rw [← Bool.not_eq_true, isContained_iff, IsUnsafe]
  by_cases hempty : path = "" <;> by_cases habsolute : isAbsolute path = true <;>
    simp [hempty, habsolute]

namespace FileMap

variable {files : FileMap}

/-- Of the unsafe paths of a map, the first one has the smallest bytes. -/
theorem Ascending.exists_first (h : files.Ascending) {a : String × String} (ha : a ∈ files)
    (hbad : Path.IsUnsafe a.1) :
    ∃ first ∈ files, Path.IsUnsafe first.1 ∧ files.unsafePath? = some first.1 ∧
      ∀ b ∈ files, Path.IsUnsafe b.1 → b = first ∨ Text.bytes first.1 < Text.bytes b.1 := by
  have hfound : (files.find? fun b => !Path.isContained b.1).isSome := by
    rw [List.find?_isSome]
    exact ⟨a, ha, by simp [Path.isUnsafe_iff.mp hbad]⟩
  obtain ⟨first, hfirst⟩ := Option.isSome_iff_exists.mp hfound
  obtain ⟨hrefused, before, after, hsplit, hbefore⟩ := List.find?_eq_some_iff_append.mp hfirst
  rw [Bool.not_eq_true'] at hrefused
  have hmem : first ∈ files := by simp [hsplit]
  refine ⟨first, hmem, Path.isUnsafe_iff.mpr hrefused, by simp [unsafePath?, hfirst], ?_⟩
  intro b hb hother
  rw [Path.isUnsafe_iff] at hother
  rw [hsplit, List.mem_append, List.mem_cons] at hb
  rcases hb with hb | rfl | hb
  · have hsafe := hbefore b hb
    simp [hother] at hsafe
  · exact Or.inl rfl
  · rw [Ascending, hsplit, List.pairwise_append, List.pairwise_cons] at h
    exact Or.inr (Text.bytes_lt (h.2.1.1 b hb))

end FileMap

section Delivered

variable {cwd : Location} {dir : String} {files : FileMap} {disk : Disk}

theorem deliver_of_unsafePath {path : String} (hbad : files.unsafePath? = some path) :
    deliver cwd dir files disk = (.error (.unsafePath path), disk) := by
  rw [deliver, hbad]

theorem deliver_of_safe (hsafe : files.unsafePath? = none) :
    deliver cwd dir files disk =
      ((deliverAll cwd dir files disk).1.map fun () => files.length,
        (deliverAll cwd dir files disk).2) := by
  rw [deliver, hsafe]

theorem deliverAll_result (cwd : Location) (dir : String) (files : FileMap) (disk : Disk) :
    (deliverAll cwd dir files disk).1 = .ok () ∨
      ∃ path e, (deliverAll cwd dir files disk).1 = .error (.io path e) := by
  induction files generalizing disk with
  | nil => exact Or.inl rfl
  | cons a rest ih =>
      obtain ⟨mid, _, ⟨path, e, hdone⟩ | ⟨_, _, hdone⟩⟩ :=
        Disk.deliverFile_cases cwd (Path.join dir a.1) a.2 disk
      · rw [deliverAll, hdone]
        exact Or.inr ⟨path, e, rfl⟩
      · rw [deliverAll, hdone]
        exact ih _

/-- A file would stand in the place of the directory itself, which is there by then. -/
theorem deliverFile_dir {path : String} (hpath : Path.isContained path = true)
    (hnames : Path.names path = []) (content : String) :
    (deliverFile cwd (Path.join dir path) content disk).1 ≠ .ok () := by
  intro hok
  obtain ⟨mid, _, ⟨path, e, hdone⟩ | ⟨hlocate, hfree, _⟩⟩ :=
    Disk.deliverFile_cases cwd (Path.join dir path) content disk
  · rw [hdone] at hok
    cases hok
  · obtain ⟨_, hrelative, _⟩ := Path.isContained_iff.mp hpath
    obtain ⟨front, hjoin, hfront, _⟩ := Path.exists_front cwd dir hrelative
    -- The walk went through the directory, so it is there and no file can take its place.
    have hwalk := (Disk.locateSegments_eq_ok_iff.mp hlocate).2.2.2
    have hstart : Path.start cwd (Path.join dir path) = Path.start cwd dir := by
      rw [Path.start, Path.start, Path.isAbsolute_join dir hrelative]
    rw [hstart, hjoin] at hwalk
    have hdirectory := Disk.directory_of_walk (Path.segments_ne_nil path) hwalk
    rw [Path.goal_join cwd dir hpath, hnames, List.append_nil] at hfree
    rw [hfront] at hdirectory
    exact hfree hdirectory

theorem deliverAll_dir {path content : String} (hfile : (path, content) ∈ files)
    (hpath : Path.isContained path = true) (hnames : Path.names path = []) :
    (deliverAll cwd dir files disk).1 ≠ .ok () := by
  induction files generalizing disk with
  | nil => cases hfile
  | cons a rest ih =>
      rw [deliverAll]
      cases hdone : deliverFile cwd (Path.join dir a.1) a.2 disk with
      | mk result made =>
          cases result with
          | error e => simp [proceed]
          | ok =>
              rcases List.mem_cons.mp hfile with rfl | hrest
              · exact absurd (congrArg Prod.fst hdone) (deliverFile_dir hpath hnames content)
              · exact ih hrest

/-- The way to a directory whose path never goes up leads down to it only. -/
theorem Path.stops_isPrefix {stop : Location} (hup : ".." ∉ segments dir)
    (hstop : stop ∈ (start cwd dir).stops (segments dir)) : stop <+: goal cwd dir := by
  obtain ⟨names, hprefix, rfl⟩ := Location.exists_of_mem_stops hup hstop
  rw [goal, Location.follow_of_contained _ hup, List.prefix_append_right_inj]
  exact hprefix

/-- A delivery with unsafe paths names the smallest one and changes nothing. Any other one changes
only the directory, what its path comes by, and below it the places of files and the directories
above them. A path of nothing but dots stands for the directory and cannot be written. -/
theorem deliver_contained (hfiles : files.Ascending) :
    (∀ a ∈ files, Path.IsUnsafe a.1 →
      ∃ first ∈ files, Path.IsUnsafe first.1 ∧
        (∀ b ∈ files, Path.IsUnsafe b.1 → b = first ∨ Text.bytes first.1 < Text.bytes b.1) ∧
        deliver cwd dir files disk = (.error (.unsafePath first.1), disk)) ∧
    ((∀ a ∈ files, ¬Path.IsUnsafe a.1) →
      ((deliver cwd dir files disk).1 = .ok files.length ∨
        ∃ path e, (deliver cwd dir files disk).1 = .error (.io path e)) ∧
      (∀ l, Disk.Fate disk (deliver cwd dir files disk).2 cwd dir files l) ∧
      (".." ∉ Path.segments dir → ∀ stop ∈ (Path.start cwd dir).stops (Path.segments dir),
        stop <+: Path.goal cwd dir) ∧
      ∀ a ∈ files, Path.goal cwd (Path.join dir a.1) = Path.goal cwd dir ++ Path.names a.1 ∧
        (Path.names a.1 = [] → (deliver cwd dir files disk).1 ≠ .ok files.length)) := by
  constructor
  · intro a ha hbad
    obtain ⟨first, hfirst, hrefused, hfound, hsmallest⟩ := hfiles.exists_first ha hbad
    exact ⟨first, hfirst, hrefused, hsmallest, deliver_of_unsafePath hfound⟩
  · intro hsafe
    have hpaths : ∀ a ∈ files, Path.isContained a.1 = true := by
      intro a ha
      rw [← Bool.not_eq_false]
      exact fun hrefused => hsafe a ha (Path.isUnsafe_iff.mpr hrefused)
    rw [deliver_of_safe (FileMap.unsafePath?_eq_none_iff.mpr hpaths)]
    refine ⟨?_, Disk.fate_deliverAll hpaths (List.Subset.refl files),
      fun hup stop => Path.stops_isPrefix hup, ?_⟩
    · rcases deliverAll_result cwd dir files disk with hok | ⟨path, e, herror⟩
      · rw [hok]
        exact Or.inl rfl
      · rw [herror]
        exact Or.inr ⟨path, e, rfl⟩
    · intro a ha
      refine ⟨Path.goal_join cwd dir (hpaths a ha), fun hnames => ?_⟩
      have hfails : (deliverAll cwd dir files disk).1 ≠ .ok () :=
        deliverAll_dir ha (hpaths a ha) hnames
      cases hresult : (deliverAll cwd dir files disk).1 with
      | error e => simp [Except.map]
      | ok => exact absurd hresult hfails

end Delivered

def crossingFiles : FileMap :=
  FileMap.ofList [("/etc/passwd", "x"), ("index.html", "x"), ("../escape.html", "x")]

def haltedFiles : FileMap :=
  FileMap.ofList [("a/b.html", "new"), ("a.html", "new")]

/-- A file stands where the second file to come needs a directory. -/
def haltingDisk : Disk :=
  ⟨[(["work"], .directory), (["work", "out"], .directory), (["work", "out", "a"], .file "old")]⟩

theorem haltedFiles_contained :
    (∃ first ∈ crossingFiles, Path.IsUnsafe first.1 ∧
      (∀ b ∈ crossingFiles, Path.IsUnsafe b.1 →
        b = first ∨ Text.bytes first.1 < Text.bytes b.1) ∧
      deliver ["work"] "out" crossingFiles haltingDisk =
        (.error (.unsafePath first.1), haltingDisk)) ∧
    haltedFiles.Ascending ∧ (∀ a ∈ haltedFiles, ¬Path.IsUnsafe a.1) ∧
      (deliver ["work"] "out" haltedFiles haltingDisk).1 = .error (.io "out/a" .exists) ∧
      ∀ l, Disk.Fate haltingDisk (deliver ["work"] "out" haltedFiles haltingDisk).2 ["work"] "out"
        haltedFiles l := by
  have hcrossing : crossingFiles.Ascending := FileMap.ascending_ofList _
  have hhalted : haltedFiles.Ascending := FileMap.ascending_ofList _
  have hsafe : ∀ a ∈ haltedFiles, ¬Path.IsUnsafe a.1 := by decide
  refine ⟨(deliver_contained hcrossing).1 ("/etc/passwd", "x") (by decide) (by decide), hhalted,
    hsafe, rfl, ?_⟩
  exact ((deliver_contained hhalted).2 hsafe).2.1

end StaticSite
