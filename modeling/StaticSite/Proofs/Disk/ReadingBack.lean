import StaticSite.Proofs.Disk.Changing

/-!
# Reading delivered files back

A delivery without an error has written every file of its map, one behind the other. No directory
goes away in the meantime, so every path still leads to its place, and there stands the file that
was written last. Two spellings of one place are two files of a map, of which the earlier one is
lost: they differ in slashes behind each other, or in single dots.
-/

namespace StaticSite

/-- The last file of a map that goes to a place. -/
def FileMap.lastAt? (files : FileMap) (names : List String) : Option (String × String) :=
  (files.filter fun a => Path.names a.1 = names).getLast?

namespace FileMap

variable {a b : String × String} {files rest : FileMap} {names : List String}

theorem mem_of_lastAt? (hlast : files.lastAt? names = some b) :
    b ∈ files ∧ Path.names b.1 = names := by
  have hmem := List.mem_of_getLast? hlast
  rw [List.mem_filter, decide_eq_true_iff] at hmem
  exact hmem

theorem lastAt?_cons_of_some (a : String × String) (hlast : rest.lastAt? names = some b) :
    lastAt? (a :: rest) names = some b := by
  unfold lastAt? at hlast ⊢
  rw [List.filter_cons]
  split
  · rw [List.getLast?_cons, hlast, Option.getD_some]
  · exact hlast

theorem lastAt?_cons_self (hrest : ∀ b ∈ rest, Path.names b.1 ≠ Path.names a.1) :
    lastAt? (a :: rest) (Path.names a.1) = some a := by
  have hnone : rest.filter (fun b => Path.names b.1 = Path.names a.1) = [] := by
    rw [List.filter_eq_nil_iff]
    intro b hb
    simpa using hrest b hb
  rw [lastAt?, List.filter_cons, if_pos (by simp), hnone, List.getLast?_singleton]

end FileMap

namespace Disk

variable {disk made : Disk} {cwd : Location} {dir : String} {files : FileMap}

theorem read_of_file {path content : String} {goal : Location}
    (hlocate : disk.locate cwd path = .ok goal) (hfile : disk.at? goal = some (.file content)) :
    disk.read cwd path = .ok content := by
  simp [read, hlocate, hfile, bind, Except.bind]

/-- A file that nothing behind it goes to is still there in the end. -/
theorem Fate.file {l : Location} {content : String} (h : Fate disk made cwd dir files l)
    (hfile : disk.at? l = some (.file content))
    (hothers : ∀ b ∈ files, l ≠ Path.goal cwd (Path.join dir b.1)) :
    made.at? l = some (.file content) := by
  cases h with
  | kept hsame => rw [hsame, hfile]
  | opened hmissing => simp [hfile] at hmissing
  | written _ hb hplace => exact absurd hplace (hothers _ hb)

theorem fate_of_deliverAll (hpaths : ∀ a ∈ files, Path.isContained a.1 = true)
    {result : Except DeliveryError Unit}
    (hdone : deliverAll cwd dir files disk = (result, made)) (l : Location) :
    Fate disk made cwd dir files l := by
  have hfate : Fate disk (deliverAll cwd dir files disk).2 cwd dir files l :=
    fate_deliverAll hpaths (List.Subset.refl files) l
  rwa [hdone] at hfate

/-- Behind a file that was written, its path still leads to it, and its content is still there if
no other file goes to the same place. -/
theorem found_behind {a : String × String} {rest : FileMap}
    (hpath : Path.isContained a.1 = true) (hrest : ∀ b ∈ rest, Path.isContained b.1 = true)
    (hlocate : disk.locate cwd (Path.join dir a.1) = .ok (Path.goal cwd (Path.join dir a.1)))
    (hfree : disk.at? (Path.goal cwd (Path.join dir a.1)) ≠ some .directory)
    (hdone : deliverAll cwd dir rest
      (disk.put (Path.goal cwd (Path.join dir a.1)) (.file a.2)) = (.ok (), made)) :
    made.locate cwd (Path.join dir a.1) = .ok (Path.goal cwd (Path.join dir a.1)) ∧
      ((∀ b ∈ rest, Path.names b.1 ≠ Path.names a.1) →
        made.at? (Path.goal cwd (Path.join dir a.1)) = some (.file a.2)) := by
  have hbehind := fate_of_deliverAll hrest hdone
  constructor
  · apply locate_of_directories _ hlocate
    intro l hat
    exact (hbehind l).directory ((Fate.put (List.mem_singleton_self a) hfree l).directory hat)
  · intro hothers
    apply (hbehind _).file
    · rw [at?_put disk (ne_nil_of_not_directory hfree), if_pos rfl]
    · intro b hb hsame
      rw [Path.goal_join cwd dir hpath, Path.goal_join cwd dir (hrest b hb),
        List.append_cancel_left_eq] at hsame
      exact hothers b hb hsame.symm

/-- Each file is found where its path leads, with what was written there last. -/
theorem deliverAll_found (hpaths : ∀ a ∈ files, Path.isContained a.1 = true)
    (hdone : deliverAll cwd dir files disk = (.ok (), made)) :
    ∀ a ∈ files, made.locate cwd (Path.join dir a.1) = .ok (Path.goal cwd (Path.join dir a.1)) ∧
      ∃ b, files.lastAt? (Path.names a.1) = some b ∧
        made.at? (Path.goal cwd (Path.join dir a.1)) = some (.file b.2) := by
  induction files generalizing disk with
  | nil => simp
  | cons first rest ih =>
      have hfirst : Path.isContained first.1 = true := hpaths first List.mem_cons_self
      have hrest : ∀ a ∈ rest, Path.isContained a.1 = true :=
        fun a ha => hpaths a (List.mem_cons_of_mem first ha)
      rw [deliverAll] at hdone
      obtain ⟨mid, _, ⟨path, e, hstep⟩ | ⟨hlocate, hfree, hstep⟩⟩ :=
        deliverFile_cases cwd (Path.join dir first.1) first.2 disk
      · rw [hstep, proceed] at hdone
        cases hdone
      rw [hstep, proceed] at hdone
      have hfound := ih hrest hdone
      obtain ⟨hleads, hstays⟩ := found_behind hfirst hrest hlocate hfree hdone
      intro a ha
      rcases List.mem_cons.mp ha with rfl | ha
      · refine ⟨hleads, ?_⟩
        by_cases hothers : ∀ b ∈ rest, Path.names b.1 ≠ Path.names a.1
        · exact ⟨a, FileMap.lastAt?_cons_self hothers, hstays hothers⟩
        -- Another spelling of the same place comes later.
        · push Not at hothers
          obtain ⟨b, hb, hsame⟩ := hothers
          obtain ⟨_, last, hlast, hat⟩ := hfound b hb
          rw [hsame] at hlast
          rw [Path.goal_join cwd dir (hrest b hb), hsame] at hat
          rw [Path.goal_join cwd dir hfirst]
          exact ⟨last, FileMap.lastAt?_cons_of_some a hlast, hat⟩
      · obtain ⟨hlocated, last, hlast, hat⟩ := hfound a ha
        exact ⟨hlocated, last, FileMap.lastAt?_cons_of_some first hlast, hat⟩

end Disk

theorem deliver_eq_ok {cwd : Location} {dir : String} {files : FileMap} {disk made : Disk}
    {count : Nat} (hdone : deliver cwd dir files disk = (.ok count, made)) :
    (∀ a ∈ files, Path.isContained a.1 = true) ∧ count = files.length ∧
      deliverAll cwd dir files disk = (.ok (), made) := by
  rw [deliver] at hdone
  cases hrefused : files.unsafePath? with
  | some path =>
      rw [hrefused] at hdone
      cases hdone
  | none =>
      rw [hrefused] at hdone
      simp only at hdone
      cases hall : deliverAll cwd dir files disk with
      | mk result last =>
          rw [hall] at hdone
          cases result with
          | error e => cases hdone
          | ok =>
              obtain ⟨hcount, rfl⟩ := Prod.mk.inj hdone
              exact ⟨FileMap.unsafePath?_eq_none_iff.mp hrefused, (Except.ok.inj hcount).symm, rfl⟩

/-- Behind a delivery without an error, the path of a file reads as the last file of the map that
goes to its place. So nothing of the map is lost if and only if all files of one place have the
same content. Files in other places are as before. -/
theorem deliver_reads_back {cwd : Location} {dir : String} {files : FileMap} {disk made : Disk}
    {count : Nat} (hdone : deliver cwd dir files disk = (.ok count, made)) :
    count = files.length ∧
      (∀ a ∈ files, ∃ b, files.lastAt? (Path.names a.1) = some b ∧
        made.read cwd (Path.join dir a.1) = .ok b.2) ∧
      ((∀ a ∈ files, made.read cwd (Path.join dir a.1) = .ok a.2) ↔
        ∀ a ∈ files, ∀ b ∈ files, Path.names a.1 = Path.names b.1 → a.2 = b.2) ∧
      ∀ l, (∀ a ∈ files, l ≠ Path.goal cwd (Path.join dir a.1)) →
        ∀ content, made.at? l = some (.file content) ↔ disk.at? l = some (.file content) := by
  obtain ⟨hpaths, hcount, hall⟩ := deliver_eq_ok hdone
  have hreads : ∀ a ∈ files, ∃ b, files.lastAt? (Path.names a.1) = some b ∧
      made.read cwd (Path.join dir a.1) = .ok b.2 := by
    intro a ha
    obtain ⟨hlocate, b, hlast, hat⟩ := Disk.deliverAll_found hpaths hall a ha
    exact ⟨b, hlast, Disk.read_of_file hlocate hat⟩
  refine ⟨hcount, hreads, ⟨?_, ?_⟩, ?_⟩
  · intro hown a ha b hb hsame
    obtain ⟨c, hc, hread⟩ := hreads a ha
    obtain ⟨d, hd, hother⟩ := hreads b hb
    rw [hsame, hd, Option.some.injEq] at hc
    rw [hown a ha, Except.ok.injEq] at hread
    rw [hown b hb, Except.ok.injEq] at hother
    rw [hread, hother, hc]
  · intro hequal a ha
    obtain ⟨b, hlast, hread⟩ := hreads a ha
    obtain ⟨hb, hsame⟩ := FileMap.mem_of_lastAt? hlast
    rw [hread, hequal b hb a ha hsame]
  · intro l hothers content
    cases Disk.fate_of_deliverAll hpaths hall l with
    | kept hsame => rw [hsame]
    | opened hmissing hdirectory => simp [hmissing, hdirectory]
    | written _ ha hplace => exact absurd hplace (hothers _ ha)

def renewedFiles : FileMap :=
  FileMap.ofList [("index.html", "new"), ("blog/./post.html", "post")]

def servedDisk : Disk :=
  ⟨[(["out"], .directory), (["out", "index.html"], .file "old"), (["out", "robots.txt"], .file "")]⟩

def renewedDisk : Disk :=
  ⟨[(["out"], .directory), (["out", "index.html"], .file "new"), (["out", "robots.txt"], .file ""),
    (["out", "blog"], .directory), (["out", "blog", "post.html"], .file "post")]⟩

theorem renewedFiles_read :
    deliver [] "out" renewedFiles servedDisk = (.ok 2, renewedDisk) ∧
      (∀ a ∈ renewedFiles, renewedDisk.read [] (Path.join "out" a.1) = .ok a.2) ∧
      (renewedDisk.at? ["out", "robots.txt"] = some (.file "") ↔
        servedDisk.at? ["out", "robots.txt"] = some (.file "")) := by
  have hdone : deliver [] "out" renewedFiles servedDisk = (.ok 2, renewedDisk) := rfl
  obtain ⟨_, _, hown, hothers⟩ := deliver_reads_back hdone
  exact ⟨hdone, hown.mpr (by decide), hothers ["out", "robots.txt"] (by decide) ""⟩

/-- Routes with one slash and with two between their parts have these files. -/
def twiceSpelledFiles : FileMap :=
  FileMap.ofList [("blog/post.html", "single"), ("blog//post.html", "double")]

/-- Both files are reported as written, and one of them is lost. -/
theorem twice_spelled_lost :
    (deliver [] "out" twiceSpelledFiles Disk.empty).1.toOption = some 2 ∧
      ("blog//post.html", "double") ∈ twiceSpelledFiles ∧
      ((deliver [] "out" twiceSpelledFiles Disk.empty).2.read []
        (Path.join "out" "blog//post.html")).toOption = some "single" := by
  decide +kernel

end StaticSite
