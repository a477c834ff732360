import StaticSite.Proofs.Disk.Delivering

/-!
# What a delivery changes

Whatever becomes of a delivery, it changes little. Making directories above a file makes places
that the path of the directory comes by, or places between the directory and the file; writing a
file fills its own place, unless a directory stands there. Each file is one step, and
`Disk.Fate` says what the steps behind each other can have done to a place.
-/

namespace StaticSite

namespace Path

theorem isContained_iff {path : String} : isContained path = true ↔
    path ≠ "" ∧ isAbsolute path = false ∧ ".." ∉ segments path := by
  simp [isContained, and_assoc]

theorem goal_join (cwd : Location) (dir : String) {path : String}
    (hpath : isContained path = true) :
    goal cwd (join dir path) = goal cwd dir ++ names path := by
  obtain ⟨_, hrelative, hup⟩ := isContained_iff.mp hpath
  obtain ⟨front, hjoin, hfront, _⟩ := exists_front cwd dir hrelative
  have hstart : start cwd (join dir path) = start cwd dir := by
    rw [start, start, isAbsolute_join dir hrelative]
  rw [goal, hstart, hjoin, Location.follow_append, hfront, Location.follow_of_contained _ hup,
    names]

/-! ## The path above -/

variable {cwd l : Location} {path above : String}

theorem mem_stops_ofSegments (hne : path ≠ "") {front rest : List String}
    (hpath : segments path = front ++ rest) (hfront : front ≠ []) :
    l ∈ (start cwd (ofSegments front)).stops (segments (ofSegments front)) ↔
      l ∈ (start cwd path).stops front := by
  rw [start_above cwd hne hpath hfront]
  by_cases hroot : front = [""]
  · subst hroot
    have hslash : ∀ s ∈ segments (ofSegments [""]), isIdle s = true := by decide
    have hempty : ∀ s ∈ [""], isIdle s = true := by decide
    rw [Location.mem_stops_idle hslash, Location.mem_stops_idle hempty]
  · rw [segments_front hpath hfront hroot]

theorem ne_empty_of_parent (habove : parent? path = some above) : path ≠ "" := by
  rintro rfl
  cases habove

/-- The path above comes by what the segments in front of the last one do. -/
theorem mem_stops_parent (habove : parent? path = some above) :
    l ∈ (start cwd above).stops (segments above) ↔
      l ∈ (start cwd path).stops (dropIdle (segments path)).dropLast := by
  have hne := ne_empty_of_parent habove
  obtain ⟨front, last, hdropped, ⟨rfl, hlast, rfl⟩ | ⟨hfront, rfl⟩⟩ :=
    exists_front_of_parent habove
  · -- There is one segment only, and above it is the place where the path starts.
    obtain ⟨idle, hsplit, _⟩ := exists_dropIdle_append (segments path)
    rw [hdropped] at hsplit ⊢
    have hrelative : isAbsolute (ofSegments [last]) = false := by
      rw [isAbsolute_ofSegments (isPlain_of_front hsplit), decide_eq_false hlast]
    have hstart := start_above cwd hne hsplit (List.cons_ne_nil _ _)
    rw [start, if_neg (by simp [hrelative])] at hstart
    have hidle : ∀ s ∈ segments "", isIdle s = true := by decide
    rw [Location.mem_stops_idle hidle, ← hstart]
    exact (List.mem_singleton).symm
  · -- The path above leaves out the idle segments at its end, which lead nowhere.
    obtain ⟨rest, hwhole⟩ := dropIdle_front_prefix hdropped
    rw [mem_stops_ofSegments hne hwhole.symm (dropIdle_ne_nil hfront), Location.mem_stops_dropIdle,
      hdropped, List.dropLast_concat]

end Path

namespace Disk

variable {disk made : Disk} {cwd goal l : Location} {dir path : String} {files : FileMap}

/-! ## Making directories, whatever the result -/

theorem locateSegments_eq_ok_iff {segments : List String} :
    disk.locateSegments cwd path segments = .ok goal ↔
      path ≠ "" ∧ '\x00' ∉ path.toList ∧ path.utf8ByteSize ≤ longestPath ∧
        disk.walk (Path.start cwd path) segments = .ok goal := by
  unfold locateSegments
  split_ifs with hempty hnul hlong habsolute
  · simp_all
  · simp_all
  · simp only [false_iff]
    rintro ⟨_, _, hshort, _⟩
    exact absurd hlong (Nat.not_lt.mpr hshort)
  all_goals simp_all [Path.start]

theorem goal_of_locate (hlocate : disk.locate cwd path = .ok goal) : Path.goal cwd path = goal :=
  follow_of_walk (locateSegments_eq_ok_iff.mp hlocate).2.2.2

theorem locate_of_directories {later : Disk}
    (hdirectories : ∀ l, disk.at? l = some .directory → later.at? l = some .directory)
    (hlocate : disk.locate cwd path = .ok goal) : later.locate cwd path = .ok goal := by
  obtain ⟨hne, hnul, hshort, hwalk⟩ := locateSegments_eq_ok_iff.mp hlocate
  exact locateSegments_eq_ok_iff.mpr ⟨hne, hnul, hshort, walk_of_directories hdirectories hwalk⟩

theorem withoutTrailingSlashes_prefix (path : String) :
    withoutTrailingSlashes path <+: Path.segments path := by
  rw [withoutTrailingSlashes]
  cases Path.segments path with
  | nil => exact List.prefix_rfl
  | cons first rest =>
      rw [List.cons_prefix_cons]
      exact ⟨rfl, List.rdropWhile_prefix String.isEmpty rest⟩

theorem makeDirectory_eq_ok (hmake : disk.makeDirectory cwd path = .ok made) :
    ∃ l ∈ (Path.start cwd path).stops (Path.segments path),
      disk.at? l = none ∧ made = disk.put l .directory := by
  rw [makeDirectory] at hmake
  cases hlocate : disk.locateSegments cwd path (withoutTrailingSlashes path) with
  | error e =>
      rw [hlocate] at hmake
      cases hmake
  | ok location =>
      rw [hlocate] at hmake
      have hstop : location ∈ (Path.start cwd path).stops (Path.segments path) := by
        have hfront : withoutTrailingSlashes path <+: Path.segments path :=
          withoutTrailingSlashes_prefix path
        rw [← follow_of_walk (locateSegments_eq_ok_iff.mp hlocate).2.2.2]
        exact Location.mem_stops_of_prefix hfront (Location.follow_mem_stops _ _)
      cases hat : disk.at? location with
      | none =>
          simp only [bind, Except.bind, hat, Except.ok.injEq] at hmake
          exact ⟨location, hstop, hat, hmake.symm⟩
      | some entry => simp only [bind, Except.bind, hat, reduceCtorEq] at hmake

theorem gains_acceptDirectory :
    disk.Gains (disk.acceptDirectory cwd path (disk.makeDirectory cwd path)).2
      ((Path.start cwd path).stops (Path.segments path)) := by
  cases hmake : disk.makeDirectory cwd path with
  | error e => exact Gains.refl _ _
  | ok made =>
      obtain ⟨location, hstop, hat, rfl⟩ := makeDirectory_eq_ok hmake
      exact Gains.put hat hstop

theorem gains_makeDirectories (cwd : Location) (levels : Nat) (path : String) (disk : Disk) :
    disk.Gains (makeDirectories cwd levels path disk).2
      ((Path.start cwd path).stops (Path.segments path)) := by
  induction levels generalizing path with
  | zero => exact Gains.refl _ _
  | succ levels ih =>
      rw [makeDirectories]
      split_ifs
      · exact Gains.refl _ _
      split
      next hmissing =>
        split
        · exact Gains.refl _ _
        next above habove =>
          -- What the path above comes by, this path comes by too.
          have hgains := (ih above).mono fun l hl =>
            Location.mem_stops_of_prefix ((List.dropLast_prefix _).trans (Path.dropIdle_prefix _))
              ((Path.mem_stops_parent habove).mp hl)
          split
          next e left hleft =>
            rw [hleft] at hgains
            exact hgains
          next left hleft =>
            rw [hleft] at hgains
            exact hgains.trans gains_acceptDirectory
      · exact gains_acceptDirectory

theorem gains_above (cwd : Location) (target : String) (disk : Disk) :
    disk.Gains (disk.ensureDirectory cwd ((Path.parent? target).getD "")).2
      ((Path.start cwd target).stops (Path.dropIdle (Path.segments target)).dropLast) := by
  cases habove : Path.parent? target with
  | none => exact Gains.refl _ _
  | some above =>
      apply (gains_makeDirectories cwd _ above disk).mono
      intro l hl
      exact (Path.mem_stops_parent habove).mp hl

/-- The segments in front of the last one lead to the directory, or between it and the file. -/
theorem needed_of_above (hpath : Path.isContained path = true)
    (hl : l ∈ (Path.start cwd (Path.join dir path)).stops
      (Path.dropIdle (Path.segments (Path.join dir path))).dropLast) : Needed cwd dir path l := by
  obtain ⟨_, hrelative, hup⟩ := Path.isContained_iff.mp hpath
  obtain ⟨front, hjoin, hfront, hstops⟩ := Path.exists_front cwd dir hrelative
  have hstart : Path.start cwd (Path.join dir path) = Path.start cwd dir := by
    rw [Path.start, Path.start, Path.isAbsolute_join dir hrelative]
  obtain ⟨upper, last, hdropped, hlast⟩ :=
    Path.dropIdle_eq_append (Path.segments_ne_nil (Path.join dir path))
  obtain ⟨idle, hsplit, _⟩ := Path.exists_dropIdle_append (Path.segments (Path.join dir path))
  rw [hdropped, List.dropLast_concat, hstart] at hl
  rw [hdropped, hjoin, List.append_assoc] at hsplit
  -- The last segment that counts belongs to the path, unless the path is nothing but dots.
  rcases List.append_eq_append_iff.mp hsplit with ⟨below, hbelow, hsegments⟩ | ⟨rest, hrest, _⟩
  · rw [hbelow, Location.mem_stops_append, hstops, hfront] at hl
    rcases hl with hdir | hbehind
    · exact Or.inl hdir
    rcases hlast with hlast | hnil
    · have hbelowUp : ".." ∉ below := by
        intro hmem
        apply hup
        rw [hsegments]
        exact List.mem_append_left _ hmem
      obtain ⟨names, ⟨rest, hnames⟩, rfl⟩ := Location.exists_of_mem_stops hbelowUp hbehind
      refine Or.inr ⟨names, rest ++ last :: idle.filter fun s => !Path.isIdle s, ?_, by simp, rfl⟩
      rw [Path.names, hsegments, List.filter_append, ← hnames, List.append_assoc]
      simp [hlast]
    · rw [hnil] at hbelow
      obtain ⟨_, hbelowNil⟩ := List.append_eq_nil_iff.mp hbelow.symm
      rw [hbelowNil, Location.stops, List.mem_singleton] at hbehind
      rw [hbehind]
      exact Or.inl (Location.follow_mem_stops _ _)
  · apply Or.inl
    rw [← hstops, hrest, Location.mem_stops_append]
    exact Or.inl hl

/-! ## One file -/

theorem write_eq_ok {content : String} (hwrite : disk.write cwd path content = .ok made) :
    ∃ goal, disk.locate cwd path = .ok goal ∧ disk.at? goal ≠ some .directory ∧
      made = disk.put goal (.file content) := by
  simp only [write] at hwrite
  split_ifs at hwrite with htrailing
  -- A path with a slash at its end is never written.
  · exfalso
    cases hlocate : disk.locateSegments cwd path
        ((withoutTrailingSlashes path).dropLast ++ ["."]) with
    | error e =>
        rw [hlocate] at hwrite
        cases hwrite
    | ok above =>
        simp only [hlocate, bind, Except.bind] at hwrite
        split at hwrite <;> cases hwrite
  · cases hlocate : disk.locate cwd path with
    | error e =>
        rw [hlocate] at hwrite
        cases hwrite
    | ok goal =>
        simp only [hlocate, bind, Except.bind] at hwrite
        split_ifs at hwrite with hdirectory
        exact ⟨goal, rfl, hdirectory, (Except.ok.inj hwrite).symm⟩

/-- Directories are made first. Behind that there is an error, or the file stands in its place. -/
theorem deliverFile_cases (cwd : Location) (target content : String) (disk : Disk) :
    ∃ mid, disk.Gains mid
        ((Path.start cwd target).stops (Path.dropIdle (Path.segments target)).dropLast) ∧
      ((∃ path e, deliverFile cwd target content disk = (.error (.io path e), mid)) ∨
        mid.locate cwd target = .ok (Path.goal cwd target) ∧
          mid.at? (Path.goal cwd target) ≠ some .directory ∧
          deliverFile cwd target content disk =
            (.ok (), mid.put (Path.goal cwd target) (.file content))) := by
  refine ⟨_, gains_above cwd target disk, ?_⟩
  rw [deliverFile]
  generalize disk.ensureDirectory cwd ((Path.parent? target).getD "") = done
  obtain ⟨result, mid⟩ := done
  cases result with
  | error e => exact Or.inl ⟨_, e, rfl⟩
  | ok =>
      cases hwrite : mid.write cwd target content with
      | error e => exact Or.inl ⟨target, e, by simp only [hwrite]⟩
      | ok made =>
          obtain ⟨goal, hlocate, hfree, rfl⟩ := write_eq_ok hwrite
          have hgoal := goal_of_locate hlocate
          refine Or.inr ⟨hgoal ▸ hlocate, hgoal ▸ hfree, ?_⟩
          simp only [hwrite, hgoal]

/-! ## Places -/

/-- What becomes of a place while files are delivered below a directory. -/
inductive Fate (disk made : Disk) (cwd : Location) (dir : String) (files : FileMap)
    (l : Location) : Prop
  | kept (hsame : made.at? l = disk.at? l)
  /-- A directory that was missing was made for one of the files. -/
  | opened (hmissing : disk.at? l = none) (hdirectory : made.at? l = some .directory)
      {a : String × String} (ha : a ∈ files) (hneeded : Needed cwd dir a.1 l)
  /-- One of the files was written in its place. -/
  | written (hfree : disk.at? l ≠ some .directory) {a : String × String} (ha : a ∈ files)
      (hplace : l = Path.goal cwd (Path.join dir a.1)) (hfile : made.at? l = some (.file a.2))

theorem Fate.trans {next : Disk} (h : Fate disk made cwd dir files l)
    (hnext : Fate made next cwd dir files l) : Fate disk next cwd dir files l := by
  cases hnext with
  | kept hsame =>
      cases h with
      | kept hold => exact .kept (hsame.trans hold)
      | opened hmissing hdirectory ha hneeded =>
          exact .opened hmissing (hsame.trans hdirectory) ha hneeded
      | written hfree ha hplace hfile => exact .written hfree ha hplace (hsame.trans hfile)
  | opened hmissing hdirectory ha hneeded =>
      cases h with
      | kept hold => exact .opened (hold ▸ hmissing) hdirectory ha hneeded
      | opened _ hbefore => simp [hbefore] at hmissing
      | written _ _ _ hfile => simp [hfile] at hmissing
  | written hfree ha hplace hfile =>
      cases h with
      | kept hold => exact .written (hold ▸ hfree) ha hplace hfile
      | opened _ hdirectory => exact absurd hdirectory hfree
      | written hbefore => exact .written hbefore ha hplace hfile

theorem Fate.directory (h : Fate disk made cwd dir files l)
    (hat : disk.at? l = some .directory) : made.at? l = some .directory := by
  cases h with
  | kept hsame => rw [hsame, hat]
  | opened hmissing => simp [hat] at hmissing
  | written hfree => exact absurd hat hfree

theorem Fate.of_gains {stops : List Location} (h : disk.Gains made stops) {a : String × String}
    (ha : a ∈ files) (hneeded : ∀ l ∈ stops, Needed cwd dir a.1 l) (l : Location) :
    Fate disk made cwd dir files l := by
  rcases h l with hsame | ⟨hstop, hmissing, hdirectory⟩
  · exact .kept hsame
  · exact .opened hmissing hdirectory ha (hneeded l hstop)

theorem ne_nil_of_not_directory (hfree : disk.at? l ≠ some .directory) : l ≠ [] := by
  rintro rfl
  exact hfree (at?_root disk)

theorem Fate.put {a : String × String} (ha : a ∈ files)
    (hfree : disk.at? (Path.goal cwd (Path.join dir a.1)) ≠ some .directory) (l : Location) :
    Fate disk (disk.put (Path.goal cwd (Path.join dir a.1)) (.file a.2)) cwd dir files l := by
  have hat := at?_put disk (ne_nil_of_not_directory hfree) (.file a.2) l
  by_cases hl : l = Path.goal cwd (Path.join dir a.1)
  · rw [if_pos hl] at hat
    exact .written (hl ▸ hfree) ha hl hat
  · rw [if_neg hl] at hat
    exact .kept hat

theorem fate_deliverFile {a : String × String} (ha : a ∈ files)
    (hpath : Path.isContained a.1 = true) (l : Location) :
    Fate disk (deliverFile cwd (Path.join dir a.1) a.2 disk).2 cwd dir files l := by
  obtain ⟨mid, hgains, hdone⟩ := deliverFile_cases cwd (Path.join dir a.1) a.2 disk
  have hmid := Fate.of_gains hgains ha (fun l hl => needed_of_above hpath hl) l
  rcases hdone with ⟨path, e, hdone⟩ | ⟨_, hfree, hdone⟩
  · rw [hdone]
    exact hmid
  · rw [hdone]
    exact hmid.trans (Fate.put ha hfree l)

theorem fate_deliverAll (hpaths : ∀ a ∈ files, Path.isContained a.1 = true) {rest : FileMap}
    (hrest : rest ⊆ files) (l : Location) :
    Fate disk (deliverAll cwd dir rest disk).2 cwd dir files l := by
  induction rest generalizing disk with
  | nil => exact .kept rfl
  | cons a others ih =>
      have ha : a ∈ files := hrest List.mem_cons_self
      have hfirst : Fate disk (deliverFile cwd (Path.join dir a.1) a.2 disk).2 cwd dir files l :=
        fate_deliverFile ha (hpaths a ha) l
      rw [deliverAll]
      generalize deliverFile cwd (Path.join dir a.1) a.2 disk = done at *
      obtain ⟨result, made⟩ := done
      cases result with
      | error e => exact hfirst
      | ok => exact hfirst.trans (ih fun b hb => hrest (List.mem_cons_of_mem a hb))

end Disk

end StaticSite
