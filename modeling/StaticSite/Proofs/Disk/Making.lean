import StaticSite.Proofs.Disk.Walking

/-!
# Making directories

Where no stop of a walk is a file, the directories above a path can be made. The induction is on
the levels: either the directory in front is there and one step makes the next, or it is missing
and is made first. All that changes is that stops which were missing are directories.
-/

namespace StaticSite

def Path.start (cwd : Location) (path : String) : Location :=
  if Path.isAbsolute path then [] else cwd

/-- A path that no limit on names and lengths refuses. -/
structure Path.Fits (path : String) : Prop where
  named : '\x00' ∉ path.toList
  short : path.utf8ByteSize ≤ Disk.longestPath
  names : ∀ s ∈ Path.segments path, s.utf8ByteSize ≤ Disk.longestName

namespace Path

instance (path : String) : Decidable (Fits path) :=
  decidable_of_iff
    ('\x00' ∉ path.toList ∧ path.utf8ByteSize ≤ Disk.longestPath ∧
      ∀ s ∈ segments path, s.utf8ByteSize ≤ Disk.longestName)
    ⟨fun h => ⟨h.1, h.2.1, h.2.2⟩, fun h => ⟨h.named, h.short, h.names⟩⟩

theorem Fits.above {path : String} (h : Fits path) {front rest : List String}
    (hpath : segments path = front ++ rest) (hne : front ≠ []) : Fits (ofSegments front) := by
  by_cases hroot : front = [""]
  · subst hroot
    decide
  have hsplit : ∃ below, path = ofSegments front ++ below := by
    rw [ofSegments_eq hroot]
    cases rest with
    | nil => exact ⟨"", by rw [String.append_empty, ← List.append_nil front, ← hpath,
        intercalate_segments]⟩
    | cons next others =>
        refine ⟨"/" ++ String.intercalate "/" (next :: others), ?_⟩
        rw [← String.append_assoc, ← String.intercalate_append_of_ne_nil hne (List.cons_ne_nil _ _),
          ← hpath, intercalate_segments]
  obtain ⟨below, hbelow⟩ := hsplit
  constructor
  · intro hmem
    apply h.named
    rw [hbelow, String.toList_append]
    exact List.mem_append_left _ hmem
  · have hshort := h.short
    rw [hbelow, String.utf8ByteSize_append] at hshort
    omega
  · intro s hs
    rw [segments_front hpath hne hroot] at hs
    apply h.names
    rw [hpath]
    exact List.mem_append_left rest hs

theorem start_above (cwd : Location) {path : String} (hne : path ≠ "") {front rest : List String}
    (hpath : segments path = front ++ rest) (hfront : front ≠ []) :
    start cwd (ofSegments front) = start cwd path := by
  obtain ⟨first, others, rfl⟩ := List.exists_cons_of_ne_nil hfront
  have habove : isAbsolute (ofSegments (first :: others)) = decide (first = "") :=
    isAbsolute_ofSegments (isPlain_of_front hpath)
  have hwhole : segments path = (first :: (others ++ rest)) ++ [] := by
    rw [hpath, List.append_nil, List.cons_append]
  have hsame : isAbsolute path = decide (first = "") := by
    rw [← ofSegments_segments hne, hpath, List.cons_append]
    exact isAbsolute_ofSegments (isPlain_of_front hwhole)
  rw [start, start, habove, hsame]

/-- Above a path that is not right below the root stands a path with the same start. -/
theorem exists_above (cwd : Location) {path last : String} {front : List String} (hne : path ≠ "")
    (hpath : segments path = front ++ [last]) (hfits : Fits path) (hfront : front ≠ [])
    (hroot : dropIdle front ≠ [""]) :
    ∃ lower next, dropIdle front = lower ++ [next] ∧
      segments (ofSegments (dropIdle front)) = lower ++ [next] ∧
      (isIdle next = false ∨ lower = []) ∧
      start cwd (ofSegments (dropIdle front)) = start cwd path ∧
      Fits (ofSegments (dropIdle front)) ∧ ofSegments (dropIdle front) ≠ "" := by
  obtain ⟨lower, next, hlower, hnext⟩ := dropIdle_eq_append hfront
  obtain ⟨idle, hidle, _⟩ := exists_dropIdle_append front
  have hwhole : segments path = dropIdle front ++ (idle ++ [last]) := by
    rw [← List.append_assoc, ← hidle, hpath]
  have hdropped : dropIdle front ≠ [] := by simp [hlower]
  have habove := segments_front hwhole hdropped hroot
  have hneAbove : ofSegments (dropIdle front) ≠ "" := by
    intro hempty
    rw [← habove, hempty] at hroot
    exact hroot rfl
  exact ⟨lower, next, hlower, habove.trans hlower, hnext, start_above cwd hne hwhole hdropped,
    hfits.above hwhole hdropped, hneAbove⟩

end Path

namespace Disk

/-! ## One directory -/

/-- Some of these stops, which were missing, are directories now, and nothing else changed. -/
def Gains (disk made : Disk) (stops : List Location) : Prop :=
  ∀ l, made.at? l = disk.at? l ∨
    l ∈ stops ∧ disk.at? l = none ∧ made.at? l = some .directory

variable {disk made : Disk} {cwd location : Location}

theorem Gains.refl (disk : Disk) (stops : List Location) : disk.Gains disk stops :=
  fun _ => Or.inl rfl

theorem Gains.trans {next : Disk} {stops : List Location} (h : disk.Gains made stops)
    (hnext : made.Gains next stops) : disk.Gains next stops := by
  intro l
  rcases hnext l with hsame | ⟨hstop, hmissing, hmade⟩
  · rw [hsame]
    exact h l
  · rcases h l with hold | ⟨_, _, hdirectory⟩
    · rw [hold] at hmissing
      exact Or.inr ⟨hstop, hmissing, hmade⟩
    · rw [hmissing] at hdirectory
      cases hdirectory

theorem Gains.mono {a b : List Location} (h : disk.Gains made a) (hsub : ∀ l ∈ a, l ∈ b) :
    disk.Gains made b := by
  intro l
  rcases h l with hsame | ⟨hstop, hrest⟩
  · exact Or.inl hsame
  · exact Or.inr ⟨hsub l hstop, hrest⟩

theorem Gains.directory {stops : List Location} (h : disk.Gains made stops)
    (hat : disk.at? location = some .directory) : made.at? location = some .directory := by
  rcases h location with hsame | ⟨_, _, hmade⟩
  · rw [hsame, hat]
  · exact hmade

theorem Gains.clears {stops : List Location} (h : disk.Gains made stops) {segments : List String}
    (hclears : disk.Clears location segments) : made.Clears location segments := by
  intro stop hstop content hfile
  rcases h stop with hsame | ⟨_, _, hmade⟩
  · rw [hsame] at hfile
    exact hclears stop hstop content hfile
  · rw [hmade] at hfile
    cases hfile

theorem Gains.paved {stops : List Location} (h : disk.Gains made stops) {segments : List String}
    (hpaved : disk.Paved location segments) : made.Paved location segments :=
  fun stop hstop => h.directory (hpaved stop hstop)

theorem ne_nil_of_none (hat : disk.at? location = none) : location ≠ [] := by
  rintro rfl
  rw [at?_root] at hat
  cases hat

theorem Gains.put {stops : List Location} (hat : disk.at? location = none)
    (hstop : location ∈ stops) : disk.Gains (disk.put location .directory) stops := by
  intro l
  rw [at?_put disk (ne_nil_of_none hat)]
  by_cases hl : l = location
  · subst hl
    exact Or.inr ⟨hstop, hat, if_pos rfl⟩
  · exact Or.inl (if_neg hl)

theorem locateSegments_of_fits {path : String} (hne : path ≠ "") (hfits : Path.Fits path)
    (segments : List String) :
    disk.locateSegments cwd path segments = disk.walk (Path.start cwd path) segments := by
  have hempty : path.isEmpty = false := by simpa using hne
  have hlong : ¬longestPath < path.utf8ByteSize := Nat.not_lt.mpr hfits.short
  have hnul : path.toList.contains '\x00' = false := by simpa using hfits.named
  simp only [locateSegments, hempty, hnul, hlong, Path.start]
  rfl

/-- The last segment of a path does not end in a slash if it is not idle or stands alone. -/
theorem withoutTrailingSlashes_eq {path last : String} {front : List String}
    (hpath : Path.segments path = front ++ [last])
    (hlast : Path.isIdle last = false ∨ front = []) :
    withoutTrailingSlashes path = Path.segments path := by
  rw [withoutTrailingSlashes, hpath]
  cases front with
  | nil => rfl
  | cons first rest =>
      have hidle : Path.isIdle last = false := hlast.resolve_right (List.cons_ne_nil _ _)
      have hname : last.isEmpty = false := by
        rw [Path.isIdle, Bool.or_eq_false_iff] at hidle
        exact hidle.1
      simp [hname]

theorem makeDirectory_of_located {path : String} {goal : Location}
    (hlocate : disk.locateSegments cwd path (withoutTrailingSlashes path) = .ok goal) :
    disk.makeDirectory cwd path =
      if (disk.at? goal).isSome then .error .exists else .ok (disk.put goal .directory) := by
  rw [makeDirectory, hlocate]
  cases hgoal : disk.at? goal <;> simp [bind, Except.bind, hgoal]

/-- In front of a path all stops are directories, so what it names is made, or there already. -/
theorem accept_makeDirectory {path last : String} {front : List String} (hne : path ≠ "")
    (hfits : Path.Fits path) (hpath : Path.segments path = front ++ [last])
    (hlast : Path.isIdle last = false ∨ front = [])
    (hpaved : disk.Paved (Path.start cwd path) front)
    (hclears : disk.Clears (Path.start cwd path) (front ++ [last])) :
    disk.makeDirectory cwd path ≠ .error .notFound ∧
      ∃ made, disk.acceptDirectory cwd path (disk.makeDirectory cwd path) = (.ok (), made) ∧
        disk.Gains made ((Path.start cwd path).stops (front ++ [last])) ∧
        made.Paved (Path.start cwd path) (front ++ [last]) := by
  have hsizes : ∀ s ∈ front ++ [last], s.utf8ByteSize ≤ longestName := by
    rw [← hpath]
    exact hfits.names
  have hwalk := hpaved.walk_snoc hsizes
  have hlocate : disk.locateSegments cwd path (front ++ [last]) =
      .ok ((Path.start cwd path).follow (front ++ [last])) := by
    rw [locateSegments_of_fits hne hfits, hwalk]
  have htrailing : disk.locateSegments cwd path (withoutTrailingSlashes path) =
      .ok ((Path.start cwd path).follow (front ++ [last])) := by
    rw [withoutTrailingSlashes_eq hpath hlast, hpath, hlocate]
  have hmake := makeDirectory_of_located htrailing
  have hgoal := (Path.start cwd path).follow_mem_stops (front ++ [last])
  rcases hclears.none_or_directory hgoal with hat | hat
  · rw [hat, Option.isSome_none, if_neg Bool.false_ne_true] at hmake
    have hgains := Gains.put hat hgoal
    refine ⟨by simp [hmake], _, by rw [hmake]; rfl, hgains, (hgains.paved hpaved).snoc ?_⟩
    rw [at?_put disk (ne_nil_of_none hat), if_pos rfl]
  · rw [hat, Option.isSome_some, if_pos rfl] at hmake
    have hthere : disk.isDirectory cwd path = true := by
      simp only [isDirectory, entryAt?, locate, hpath, hlocate, hat, decide_true]
    refine ⟨by simp [hmake], disk, ?_, Gains.refl _ _, hpaved.snoc hat⟩
    rw [hmake, acceptDirectory, if_pos hthere]

/-! ## All directories above a path -/

theorem makeDirectories_empty (cwd : Location) (levels : Nat) (disk : Disk) :
    makeDirectories cwd (levels + 1) "" disk = (.ok (), disk) := rfl

theorem makeDirectories_root (cwd : Location) (levels : Nat) (disk : Disk) :
    makeDirectories cwd (levels + 1) "/" disk = (.ok (), disk) := by
  have hmake : disk.makeDirectory cwd "/" = .error .exists := rfl
  have hthere : disk.isDirectory cwd "/" = true := rfl
  simp only [makeDirectories, hmake, acceptDirectory, hthere]
  rfl

theorem makeDirectories_of_made {path : String} (hne : path ≠ "") (levels : Nat)
    (hmake : disk.makeDirectory cwd path ≠ .error .notFound) :
    makeDirectories cwd (levels + 1) path disk =
      disk.acceptDirectory cwd path (disk.makeDirectory cwd path) := by
  have hempty : path.isEmpty = false := by simpa using hne
  rw [makeDirectories, hempty, if_neg Bool.false_ne_true]
  split
  · contradiction
  · rfl

theorem makeDirectory_of_missing {path last : String} {front : List String} (hne : path ≠ "")
    (hfits : Path.Fits path) (hpath : Path.segments path = front ++ [last])
    (hlast : Path.isIdle last = false ∨ front = [])
    (hmissing : disk.walk (Path.start cwd path) (front ++ [last]) = .error .notFound) :
    disk.makeDirectory cwd path = .error .notFound := by
  rw [makeDirectory, withoutTrailingSlashes_eq hpath hlast, hpath,
    locateSegments_of_fits hne hfits, hmissing]
  rfl

/-- A directory whose own directory is missing is made after that one. -/
theorem makeDirectories_of_missing {path above : String} (hne : path ≠ "") {levels : Nat}
    (hmake : disk.makeDirectory cwd path = .error .notFound)
    (habove : Path.parent? path = some above)
    (hmade : makeDirectories cwd levels above disk = (.ok (), made)) :
    makeDirectories cwd (levels + 1) path disk =
      made.acceptDirectory cwd path (made.makeDirectory cwd path) := by
  have hempty : path.isEmpty = false := by simpa using hne
  simp only [makeDirectories, hempty, hmake, habove, hmade]
  rfl

/-- One level more: a path can be made if those above it can. -/
theorem makeDirectories_succ {path last : String} {front : List String} (hne : path ≠ "")
    (hfits : Path.Fits path) (hpath : Path.segments path = front ++ [last])
    (hlast : Path.isIdle last = false ∨ front = [])
    (hstart : disk.at? (Path.start cwd path) = some .directory)
    (hclears : disk.Clears (Path.start cwd path) (front ++ [last])) {levels : Nat}
    (habove : Path.isIdle last = false →
      ∃ made, makeDirectories cwd levels ((Path.parent? path).getD "") disk = (.ok (), made) ∧
        disk.Gains made ((Path.start cwd path).stops front) ∧
        made.Paved (Path.start cwd path) front) :
    ∃ made, makeDirectories cwd (levels + 1) path disk = (.ok (), made) ∧
      disk.Gains made ((Path.start cwd path).stops (front ++ [last])) ∧
      made.Paved (Path.start cwd path) (front ++ [last]) := by
  have hfront : disk.Clears (Path.start cwd path) front := (clears_append.mp hclears).1
  have hsizes : ∀ s ∈ front, s.utf8ByteSize ≤ longestName := by
    intro s hs
    apply hfits.names
    rw [hpath]
    exact List.mem_append_left _ hs
  rcases hfront.paved_or_notFound hsizes with hpaved | hmissing
  · obtain ⟨hmake, made, haccept, hgains, hmade⟩ :=
      accept_makeDirectory hne hfits hpath hlast hpaved hclears
    refine ⟨made, ?_, hgains, hmade⟩
    rw [makeDirectories_of_made hne levels hmake, haccept]
  -- The start of the path is there, so what is missing stands above the last segment.
  · have hhigher : front ≠ [] := by
      rintro rfl
      have harrives : disk.walk (Path.start cwd path) [""] = .ok (Path.start cwd path) :=
        walk_cons_of_directory hstart (by decide) []
      have hfails : disk.walk (Path.start cwd path) [""] = .error .notFound := hmissing ""
      rw [harrives] at hfails
      cases hfails
    have hidle : Path.isIdle last = false := hlast.resolve_right hhigher
    have hmake := makeDirectory_of_missing hne hfits hpath hlast (hmissing last)
    obtain ⟨made, hmade, hgains, hpaved⟩ := habove hidle
    have hparent := Path.parent?_of_segments hpath hidle hhigher
    rw [hparent, Option.getD_some] at hmade
    obtain ⟨_, next, haccept, hmore, hnext⟩ :=
      accept_makeDirectory hne hfits hpath hlast hpaved (hgains.clears hclears)
    refine ⟨next, ?_, Gains.trans (hgains.mono ?_) hmore, hnext⟩
    · rw [makeDirectories_of_missing hne hmake hparent hmade, haccept]
    · intro l hl
      exact Location.mem_stops_append.mpr (Or.inl hl)

/-- The directories above a path can be made if no stop in front of it is a file. -/
theorem makeDirectories_above {levels : Nat} {path last : String} {front : List String}
    (hpath : Path.segments path = front ++ [last]) (hlast : Path.isIdle last = false)
    (hfits : Path.Fits path) (hstart : disk.at? (Path.start cwd path) = some .directory)
    (hclears : disk.Clears (Path.start cwd path) front)
    (hlevels : (Path.dropIdle front).length < levels) :
    ∃ made, makeDirectories cwd levels ((Path.parent? path).getD "") disk = (.ok (), made) ∧
      disk.Gains made ((Path.start cwd path).stops front) ∧
      made.Paved (Path.start cwd path) front := by
  induction levels generalizing path last front with
  | zero => exact absurd hlevels (Nat.not_lt_zero _)
  | succ levels ih =>
      have hne : path ≠ "" := Path.ne_empty_of_segments hpath hlast
      by_cases hfront : front = []
      · subst hfront
        rw [Path.parent?_of_segment hpath hlast, Option.getD_some, makeDirectories_empty]
        exact ⟨disk, rfl, Gains.refl _ _, Paved.nil hstart⟩
      rw [Path.parent?_of_segments hpath hlast hfront, Option.getD_some]
      by_cases hroot : Path.dropIdle front = [""]
      · rw [hroot]
        refine ⟨disk, makeDirectories_root cwd levels disk, Gains.refl _ _, ?_⟩
        rw [← paved_dropIdle, hroot]
        intro stop hstop
        have hidle : ∀ s ∈ [""], Path.isIdle s = true := by decide
        rw [(Location.mem_stops_idle hidle).mp hstop, hstart]
      obtain ⟨lower, next, hlower, hsegments, hnext, hsame, hfitsAbove, hneAbove⟩ :=
        Path.exists_above cwd hne hpath hfits hfront hroot
      rw [← hsame] at hstart
      rw [← clears_dropIdle, hlower, ← hsame] at hclears
      rw [hlower, List.length_append, List.length_singleton] at hlevels
      have hshorter : (Path.dropIdle lower).length ≤ lower.length :=
        (Path.dropIdle_prefix lower).length_le
      have habove := makeDirectories_succ hneAbove hfitsAbove hsegments hnext hstart hclears
        fun hlast => ih hsegments hlast hfitsAbove hstart (clears_append.mp hclears).1 (by omega)
      obtain ⟨made, hmade, hgains, hpaved⟩ := habove
      rw [hsame, ← hlower] at hgains hpaved
      refine ⟨made, hmade, hgains.mono ?_, paved_dropIdle.mp hpaved⟩
      intro l hl
      exact Location.mem_stops_dropIdle.mp hl

theorem ensureDirectory_above {path last : String} {front : List String}
    (hpath : Path.segments path = front ++ [last]) (hlast : Path.isIdle last = false)
    (hfits : Path.Fits path) (hstart : disk.at? (Path.start cwd path) = some .directory)
    (hclears : disk.Clears (Path.start cwd path) front) :
    ∃ made, disk.ensureDirectory cwd ((Path.parent? path).getD "") = (.ok (), made) ∧
      disk.Gains made ((Path.start cwd path).stops front) ∧
      made.Paved (Path.start cwd path) front := by
  apply makeDirectories_above hpath hlast hfits hstart hclears
  exact Nat.lt_succ_of_le (Path.length_dropIdle_le hpath hlast)

end Disk

end StaticSite
