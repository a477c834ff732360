import StaticSite.Disk.Delivery
import StaticSite.Proofs.Disk.Making

/-!
# Delivering files that do not collide

Files can be written one after the other below a directory that is empty or not there yet, if none
of them stands where another one needs a directory. While they are written, no file stands where a
directory is needed, and no directory where a file is: `Disk.Ready` is kept by every file.
-/

namespace StaticSite

/-! ## Ways that stay below -/

def Path.goal (cwd : Location) (path : String) : Location :=
  (Path.start cwd path).follow (Path.segments path)

def Path.names (path : String) : List String :=
  (Path.segments path).filter fun s => !Path.isIdle s

namespace Location

theorem follow_of_contained (location : Location) {segments : List String}
    (hup : ".." ∉ segments) :
    location.follow segments = location ++ segments.filter fun s => !Path.isIdle s := by
  induction segments generalizing location with
  | nil => simp
  | cons segment rest ih =>
      rw [List.mem_cons, not_or] at hup
      have hrest := ih (location.enter segment) hup.2
      rw [follow_cons, hrest, enter]
      by_cases hidle : Path.isIdle segment = true
      · simp [hidle]
      · simp [hidle, Ne.symm hup.1]

theorem exists_of_mem_stops {location stop : Location} {segments : List String}
    (hup : ".." ∉ segments) (hstop : stop ∈ location.stops segments) :
    ∃ names, names <+: (segments.filter fun s => !Path.isIdle s) ∧ stop = location ++ names := by
  induction segments generalizing location with
  | nil =>
      rw [stops, List.mem_singleton] at hstop
      exact ⟨[], List.nil_prefix, by simp [hstop]⟩
  | cons segment rest ih =>
      rw [List.mem_cons, not_or] at hup
      rcases List.mem_cons.mp hstop with rfl | hbehind
      · exact ⟨[], List.nil_prefix, by simp⟩
      · obtain ⟨names, hprefix, rfl⟩ := ih hup.2 hbehind
        by_cases hidle : Path.isIdle segment = true
        · refine ⟨names, ?_, by rw [enter, if_pos hidle]⟩
          simpa [hidle] using hprefix
        · refine ⟨segment :: names, ?_, ?_⟩
          · simpa [hidle] using hprefix
          · rw [enter, if_neg hidle, if_neg (Ne.symm hup.1)]
            simp

end Location

/-- A relative path that stays below and ends in a name. -/
structure Path.NamesFile (path : String) : Prop where
  contained : Path.isContained path = true
  named : ∃ front last, Path.segments path = front ++ [last] ∧ Path.isIdle last = false

namespace Path

variable {path : String}

theorem NamesFile.relative (h : NamesFile path) : isAbsolute path = false := by
  have hcontained := h.contained
  simp only [isContained, Bool.and_eq_true, Bool.not_eq_true'] at hcontained
  exact hcontained.1.2

theorem NamesFile.stays (h : NamesFile path) : ".." ∉ segments path := by
  have hcontained := h.contained
  simp only [isContained, Bool.and_eq_true, Bool.not_eq_true'] at hcontained
  simpa using hcontained.2

theorem NamesFile.names_ne_nil (h : NamesFile path) : names path ≠ [] := by
  obtain ⟨front, last, hpath, hlast⟩ := h.named
  simp [names, hpath, hlast]

/-- Below a directory, a path goes on from where the directory is. -/
theorem exists_front (cwd : Location) (dir : String) (hpath : isAbsolute path = false) :
    ∃ front, segments (join dir path) = front ++ segments path ∧
      (start cwd dir).follow front = goal cwd dir ∧
      ∀ stop, stop ∈ (start cwd dir).stops front ↔ stop ∈ (start cwd dir).stops (segments dir) := by
  obtain ⟨front, hjoin, hdir | hdir⟩ := segments_join dir hpath
  · exact ⟨front, hjoin, by rw [goal, hdir], fun stop => by rw [hdir]⟩
  · have hidle : ∀ s ∈ [""], isIdle s = true := by decide
    refine ⟨front, hjoin, ?_, fun stop => ?_⟩
    · rw [goal, hdir, Location.follow_append, Location.follow_cons,
        Location.enter_idle _ (by decide), Location.follow_nil]
    · rw [hdir, Location.mem_stops_append, Location.mem_stops_idle hidle]
      constructor
      · exact Or.inl
      · rintro (hstop | rfl)
        · exact hstop
        · exact Location.follow_mem_stops _ _

end Path

/-- No file stands where another one needs a directory. -/
def FileMap.Compatible (files : FileMap) : Prop :=
  ∀ a ∈ files, ∀ b ∈ files, ∀ names, names ≠ [] → Path.names b.1 ≠ Path.names a.1 ++ names

/-- The way to the directory does not lead through the place of a file below it, as the way
`out/index.html/..` does. -/
def FileMap.OffWay (files : FileMap) (cwd : Location) (dir : String) : Prop :=
  ∀ a ∈ files, ∀ stop ∈ (Path.start cwd dir).stops (Path.segments dir),
    stop ≠ Path.goal cwd dir ++ Path.names a.1

namespace Disk

variable {disk made : Disk} {cwd : Location} {dir : String} {files : FileMap}

/-- A directory without content, or one that is not there yet, with no file in the way. -/
structure IsVacant (disk : Disk) (cwd : Location) (dir : String) : Prop where
  start : disk.at? (Path.start cwd dir) = some .directory
  clears : disk.Clears (Path.start cwd dir) (Path.segments dir)
  empty : ∀ names, names ≠ [] → disk.at? (Path.goal cwd dir ++ names) = none

theorem isVacant_of_stops (hstart : disk.at? (Path.start cwd dir) = some .directory)
    (hstops : ∀ stop ∈ (Path.start cwd dir).stops (Path.segments dir),
      disk.at? stop = none ∨ disk.at? stop = some .directory)
    (hempty : ∀ names, names ≠ [] → disk.at? (Path.goal cwd dir ++ names) = none) :
    disk.IsVacant cwd dir := by
  refine ⟨hstart, ?_, hempty⟩
  intro stop hstop content hfile
  rcases hstops stop hstop with hnone | hdirectory
  · rw [hnone] at hfile
    cases hfile
  · rw [hdirectory] at hfile
    cases hfile

/-- Each of the files can be written: what it needs as directories are no files, and no directory
stands in its place. -/
structure Ready (disk : Disk) (cwd : Location) (dir : String) (files : FileMap) : Prop where
  start : disk.at? (Path.start cwd dir) = some .directory
  clears : disk.Clears (Path.start cwd dir) (Path.segments dir)
  offWay : files.OffWay cwd dir
  above : ∀ a ∈ files, ∀ names rest, Path.names a.1 = names ++ rest → rest ≠ [] →
    ∀ content, disk.at? (Path.goal cwd dir ++ names) ≠ some (.file content)
  free : ∀ a ∈ files, disk.at? (Path.goal cwd dir ++ Path.names a.1) ≠ some .directory

theorem IsVacant.ready (h : disk.IsVacant cwd dir) (hfiles : ∀ a ∈ files, Path.NamesFile a.1)
    (hway : files.OffWay cwd dir) : disk.Ready cwd dir files := by
  refine ⟨h.start, h.clears, hway, ?_, ?_⟩
  · intro a _ names rest _ _ content hfile
    by_cases hnames : names = []
    · rw [hnames, List.append_nil] at hfile
      exact h.clears _ (Location.follow_mem_stops _ _) content hfile
    · rw [h.empty names hnames] at hfile
      cases hfile
  · intro a ha hdirectory
    rw [h.empty _ (hfiles a ha).names_ne_nil] at hdirectory
    cases hdirectory

/-! ## What one file needs and changes -/

/-- Stops of the directory, and the places between it and a file. -/
def Needed (cwd : Location) (dir path : String) (l : Location) : Prop :=
  l ∈ (Path.start cwd dir).stops (Path.segments dir) ∨
    ∃ names rest, Path.names path = names ++ rest ∧ rest ≠ [] ∧ l = Path.goal cwd dir ++ names

/-- The way to a file below a directory comes by needed places only. -/
theorem exists_way (cwd : Location) (dir : String) {path : String} (hfile : Path.NamesFile path) :
    ∃ front last, Path.segments (Path.join dir path) = front ++ [last] ∧
      Path.isIdle last = false ∧ Path.start cwd (Path.join dir path) = Path.start cwd dir ∧
      Path.goal cwd (Path.join dir path) = Path.goal cwd dir ++ Path.names path ∧
      ∀ l ∈ (Path.start cwd dir).stops front, Needed cwd dir path l := by
  obtain ⟨init, last, hsegments, hlast⟩ := hfile.named
  obtain ⟨front, hjoin, hfront, hstops⟩ := Path.exists_front cwd dir hfile.relative
  have hstart : Path.start cwd (Path.join dir path) = Path.start cwd dir := by
    rw [Path.start, Path.start, Path.isAbsolute_join dir hfile.relative]
  have htarget : Path.segments (Path.join dir path) = (front ++ init) ++ [last] := by
    rw [hjoin, hsegments, List.append_assoc]
  have hgoal : Path.goal cwd (Path.join dir path) = Path.goal cwd dir ++ Path.names path := by
    rw [Path.goal, hstart, hjoin, Location.follow_append, hfront,
      Location.follow_of_contained _ hfile.stays, Path.names]
  have hup : ".." ∉ init := by
    intro hmem
    apply hfile.stays
    rw [hsegments]
    exact List.mem_append_left _ hmem
  have hnames : Path.names path = (init.filter fun s => !Path.isIdle s) ++ [last] := by
    simp [Path.names, hsegments, hlast]
  refine ⟨front ++ init, last, htarget, hlast, hstart, hgoal, ?_⟩
  intro l hl
  rw [Location.mem_stops_append, hstops, hfront] at hl
  rcases hl with hl | hl
  · exact Or.inl hl
  · obtain ⟨names, ⟨rest, hrest⟩, rfl⟩ := Location.exists_of_mem_stops hup hl
    refine Or.inr ⟨names, rest ++ [last], ?_, by simp, rfl⟩
    rw [hnames, ← hrest, List.append_assoc]

/-- No file stands in a needed place, for it would collide with the file that needs it. -/
theorem Ready.ne_file (h : disk.Ready cwd dir files) (hcompatible : files.Compatible)
    {a b : String × String} (ha : a ∈ files) (hb : b ∈ files) {l : Location}
    (hneeded : Needed cwd dir a.1 l) :
    l ≠ Path.goal cwd dir ++ Path.names b.1 := by
  rcases hneeded with hstop | ⟨names, rest, hnames, hrest, rfl⟩
  · exact h.offWay b hb l hstop
  · intro hsame
    rw [List.append_cancel_left_eq] at hsame
    rw [hsame] at hnames
    exact hcompatible b hb a ha rest hrest hnames

theorem Ready.gains (h : disk.Ready cwd dir files) {stops : List Location}
    (hgains : disk.Gains made stops)
    (hfree : ∀ l ∈ stops, ∀ a ∈ files, l ≠ Path.goal cwd dir ++ Path.names a.1) :
    made.Ready cwd dir files := by
  refine ⟨hgains.directory h.start, hgains.clears h.clears, h.offWay, ?_, ?_⟩
  · intro a ha names rest hnames hrest content hfile
    rcases hgains (Path.goal cwd dir ++ names) with hsame | ⟨_, _, hmade⟩
    · rw [hsame] at hfile
      exact h.above a ha names rest hnames hrest content hfile
    · rw [hmade] at hfile
      cases hfile
  · intro a ha hdirectory
    rcases hgains (Path.goal cwd dir ++ Path.names a.1) with hsame | ⟨hstop, _, _⟩
    · rw [hsame] at hdirectory
      exact h.free a ha hdirectory
    · exact hfree _ hstop a ha rfl

theorem write_of_paved {path last : String} {front : List String}
    (hpath : Path.segments path = front ++ [last]) (hlast : Path.isIdle last = false)
    (hfits : Path.Fits path) (hpaved : disk.Paved (Path.start cwd path) front)
    (hfree : disk.at? (Path.goal cwd path) ≠ some .directory) (content : String) :
    disk.write cwd path content = .ok (disk.put (Path.goal cwd path) (.file content)) := by
  have htrailing := withoutTrailingSlashes_eq hpath (Or.inl hlast)
  have hsizes : ∀ s ∈ front ++ [last], s.utf8ByteSize ≤ longestName := by
    rw [← hpath]
    exact hfits.names
  have hlocate : disk.locate cwd path = .ok (Path.goal cwd path) := by
    rw [locate, locateSegments_of_fits (Path.ne_empty_of_segments hpath hlast) hfits, Path.goal,
      hpath, hpaved.walk_snoc hsizes]
  simp only [write, htrailing, ne_eq, not_true_eq_false, decide_false, Bool.false_and,
    Bool.false_eq_true, if_false, hlocate]
  exact if_neg hfree

/-! ## Delivering -/

section Files

variable (hfiles : ∀ a ∈ files, Path.NamesFile a.1) (hcompatible : files.Compatible)

include hfiles hcompatible

theorem Ready.put (h : disk.Ready cwd dir files) {a : String × String} (ha : a ∈ files)
    (content : String) :
    (disk.put (Path.goal cwd dir ++ Path.names a.1) (.file content)).Ready cwd dir files := by
  have hnames : Path.names a.1 ≠ [] := (hfiles a ha).names_ne_nil
  have hroot : Path.goal cwd dir ++ Path.names a.1 ≠ [] := by simp [hnames]
  have hat := at?_put disk hroot (.file content)
  have hstops : ∀ stop ∈ (Path.start cwd dir).stops (Path.segments dir),
      (disk.put (Path.goal cwd dir ++ Path.names a.1) (.file content)).at? stop =
        disk.at? stop := by
    intro stop hstop
    rw [hat, if_neg (h.offWay a ha stop hstop)]
  refine ⟨?_, ?_, h.offWay, ?_, ?_⟩
  · rw [hstops _ (Location.start_mem_stops _ _), h.start]
  · intro stop hstop other hother
    rw [hstops stop hstop] at hother
    exact h.clears stop hstop other hother
  · intro b hb names rest hrest hne other hother
    have hneeded : Needed cwd dir b.1 (Path.goal cwd dir ++ names) :=
      Or.inr ⟨names, rest, hrest, hne, rfl⟩
    rw [hat, if_neg (h.ne_file hcompatible hb ha hneeded)] at hother
    exact h.above b hb names rest hrest hne other hother
  · intro b hb hdirectory
    rw [hat] at hdirectory
    by_cases hsame : Path.goal cwd dir ++ Path.names b.1 = Path.goal cwd dir ++ Path.names a.1
    · rw [if_pos hsame] at hdirectory
      cases hdirectory
    · rw [if_neg hsame] at hdirectory
      exact h.free b hb hdirectory

/-- One file can be written, and those that are left can be written after it. -/
theorem Ready.deliverFile (h : disk.Ready cwd dir files) {a : String × String} (ha : a ∈ files)
    (hfits : Path.Fits (Path.join dir a.1)) (content : String) :
    ∃ made, deliverFile cwd (Path.join dir a.1) content disk = (.ok (), made) ∧
      made.Ready cwd dir files := by
  obtain ⟨front, last, htarget, hlast, hstart, hgoal, hneeded⟩ := exists_way cwd dir (hfiles a ha)
  have hclears : disk.Clears (Path.start cwd dir) front := by
    intro l hl other hother
    rcases hneeded l hl with hstop | ⟨names, rest, hrest, hne, rfl⟩
    · exact h.clears l hstop other hother
    · exact h.above a ha names rest hrest hne other hother
  have hbegins := h.start
  rw [← hstart] at hclears hbegins
  obtain ⟨made, hmade, hgains, hpaved⟩ := ensureDirectory_above htarget hlast hfits hbegins hclears
  rw [hstart] at hgains
  have hready : made.Ready cwd dir files := by
    apply h.gains hgains
    intro l hl b hb
    exact h.ne_file hcompatible ha hb (hneeded l hl)
  have hfree : made.at? (Path.goal cwd (Path.join dir a.1)) ≠ some .directory := by
    rw [hgoal]
    exact hready.free a ha
  have hwrite := write_of_paved htarget hlast hfits hpaved hfree content
  refine ⟨_, ?_, hready.put hfiles hcompatible ha content⟩
  simp only [StaticSite.deliverFile, hmade, hwrite, hgoal]

theorem Ready.deliverAll (h : disk.Ready cwd dir files)
    (hfits : ∀ b ∈ files, Path.Fits (Path.join dir b.1)) {rest : FileMap} (hrest : rest ⊆ files) :
    ∃ made, deliverAll cwd dir rest disk = (.ok (), made) := by
  induction rest generalizing disk with
  | nil => exact ⟨disk, rfl⟩
  | cons a others ih =>
      obtain ⟨path, content⟩ := a
      have hfirst : (path, content) ∈ files := hrest List.mem_cons_self
      have hothers : others ⊆ files := fun b hb => hrest (List.mem_cons_of_mem _ hb)
      obtain ⟨made, hmade, hready⟩ :=
        h.deliverFile hfiles hcompatible hfirst (hfits _ hfirst) content
      obtain ⟨final, hfinal⟩ := ih hready hothers
      refine ⟨final, ?_⟩
      rw [StaticSite.deliverAll, hmade, proceed, hfinal]

end Files

end Disk

theorem FileMap.unsafePath?_eq_none_iff {files : FileMap} :
    files.unsafePath? = none ↔ ∀ a ∈ files, Path.isContained a.1 = true := by
  simp [unsafePath?, List.find?_eq_none]

theorem FileMap.unsafePath?_eq_none {files : FileMap}
    (hfiles : ∀ a ∈ files, Path.NamesFile a.1) : files.unsafePath? = none :=
  unsafePath?_eq_none_iff.mpr fun a ha => (hfiles a ha).contained

/-- Files that do not collide are all written below a vacant directory. -/
theorem deliver_of_vacant {files : FileMap} {disk : Disk} {cwd : Location} {dir : String}
    (hvacant : disk.IsVacant cwd dir) (hway : files.OffWay cwd dir)
    (hfiles : ∀ a ∈ files, Path.NamesFile a.1) (hcompatible : files.Compatible)
    (hfits : ∀ a ∈ files, Path.Fits (Path.join dir a.1)) :
    (deliver cwd dir files disk).1 = .ok files.length := by
  have hready : disk.Ready cwd dir files := hvacant.ready hfiles hway
  obtain ⟨made, hmade⟩ :=
    hready.deliverAll hfiles hcompatible hfits (List.Subset.refl files)
  simp only [deliver, FileMap.unsafePath?_eq_none hfiles, hmade]
  rfl

end StaticSite
