import StaticSite.Proofs.Disk.Delivering
import StaticSite.Proofs.Site.FileMaps
import StaticSite.Proofs.Site.Validating

/-!
# Exported sites can be written

Every path of an exported site has directories without a dot and a file name with one, if the
project has no problems or becomes page modules. So no file stands where another one needs a
directory, and the whole site is written below a vacant directory.
-/

namespace StaticSite

open Text

/-! ## Paths with an extension -/

/-- No directory of the path has a dot in its name, and the file has one. -/
structure Path.HasExtension (path : String) : Prop where
  relative : isAbsolute path = false
  split : ∃ front last, segments path = front ++ [last] ∧ (∀ s ∈ front, '.' ∉ s.toList) ∧
    '.' ∈ last.toList ∧ last ≠ "." ∧ last ≠ ".."

namespace Path

variable {path : String}

theorem HasExtension.namesFile (h : HasExtension path) : NamesFile path := by
  obtain ⟨front, last, hpath, hfront, hdot, hcurrent, hup⟩ := h.split
  have hlast : isIdle last = false := by
    have hempty : last ≠ "" := by
      rintro rfl
      simp at hdot
    simp [isIdle, hempty, hcurrent]
  have hne : path ≠ "" := ne_empty_of_segments hpath hlast
  have hstays : ".." ∉ segments path := by
    rw [hpath, List.mem_append, List.mem_singleton, not_or]
    refine ⟨fun hmem => ?_, Ne.symm hup⟩
    exact hfront ".." hmem (by decide)
  refine ⟨?_, front, last, hpath, hlast⟩
  simp [isContained, hne, h.relative, hstays]

theorem HasExtension.names (h : HasExtension path) :
    ∃ front last, names path = front ++ [last] ∧ (∀ s ∈ front, '.' ∉ s.toList) ∧
      '.' ∈ last.toList := by
  obtain ⟨front, last, hpath, hfront, hdot, hcurrent, _⟩ := h.split
  have hempty : last ≠ "" := by
    rintro rfl
    simp at hdot
  refine ⟨front.filter fun s => !isIdle s, last, ?_, ?_, hdot⟩
  · simp [Path.names, hpath, isIdle, hempty, hcurrent]
  · intro s hs
    exact hfront s (List.mem_of_mem_filter hs)

end Path

theorem FileMap.compatible_of_hasExtension {files : FileMap}
    (hfiles : ∀ a ∈ files, Path.HasExtension a.1) : files.Compatible := by
  intro a ha b hb rest hrest hsame
  obtain ⟨front, last, ha', _, hdot⟩ := (hfiles a ha).names
  obtain ⟨others, file, hb', hothers, _⟩ := (hfiles b hb).names
  -- The name of the one file would be that of a directory of the other.
  have hmem : last ∈ others := by
    have hlists : others ++ [file] = (front ++ [last]) ++ rest := by
      rw [← hb', ← ha', hsame]
    rw [← List.dropLast_append_getLast hrest, ← List.append_assoc] at hlists
    obtain ⟨hothers, _⟩ := List.append_inj' hlists rfl
    rw [hothers]
    simp
  exact hothers last hmem hdot

/-! ## Paths of pages -/

theorem Path.segments_append_of_isPlain {a b last : String} {front : List String}
    (ha : segments a = front ++ [last]) (hb : IsPlain b) :
    segments (a ++ b) = front ++ [last ++ b] := by
  have hlast : IsPlain last := by
    have hmem : last ∈ segments a := by
      rw [ha]
      exact List.mem_append_right front List.mem_cons_self
    exact isPlain_of_mem_segments hmem
  have hplain : IsPlain (last ++ b) := by
    intro hmem
    rw [String.toList_append, List.mem_append] at hmem
    exact hmem.elim hlast hb
  by_cases hfront : front = []
  · subst hfront
    have hwhole : a = last := by
      have hjoined := intercalate_segments a
      rw [ha] at hjoined
      simpa using hjoined.symm
    rw [hwhole, segments_of_isPlain hplain]
    rfl
  · have hwhole : a = String.intercalate "/" front ++ "/" ++ last := by
      have hjoined := intercalate_segments a
      rw [ha, String.intercalate_append_of_ne_nil hfront (List.cons_ne_nil _ _)] at hjoined
      simpa using hjoined.symm
    have hsegments : segments (String.intercalate "/" front) = front := by
      have hsplit := congrArg segments hwhole
      rw [ha, segments_append_slash, segments_of_isPlain hlast] at hsplit
      exact (List.append_cancel_right hsplit).symm
    rw [hwhole, String.append_assoc, segments_append_slash, hsegments,
      segments_of_isPlain hplain]

/-- A file name may be long, but its extension tells it from what stands for a directory. -/
theorem Path.extension_of_append (last : String) {extension : String}
    (hdot : '.' ∈ extension.toList) (hlength : 2 < extension.length) :
    '.' ∈ (last ++ extension).toList ∧ last ++ extension ≠ "." ∧ last ++ extension ≠ ".." := by
  have hlong : 2 < (last ++ extension).length := by
    rw [String.length_append]
    omega
  refine ⟨?_, ?_, ?_⟩
  · rw [String.toList_append]
    exact List.mem_append_right _ hdot
  · intro hsame
    rw [hsame] at hlong
    exact absurd hlong (by decide)
  · intro hsame
    rw [hsame] at hlong
    exact absurd hlong (by decide)

/-- A route without the slashes around it begins with another character, and its characters are
those of the route, or of the name that the root has. -/
theorem routeStem_spec (path : String) :
    routeStem path ≠ "" ∧ Path.isAbsolute (routeStem path) = false ∧
      ∀ c ∈ (routeStem path).toList, c ∈ path.toList ∨ c ∈ "index".toList := by
  have hslash : (fun c : Char => decide (c = '/')) = Path.isSlash := rfl
  unfold routeStem
  simp only [hslash]
  generalize htrimmed :
    ((path.toList.dropWhile Path.isSlash).reverse.dropWhile Path.isSlash).reverse = trimmed
  have hfront : trimmed <+: path.toList.dropWhile Path.isSlash := by
    rw [← htrimmed]
    exact List.rdropWhile_prefix Path.isSlash _
  cases trimmed with
  | nil => exact ⟨by decide, rfl, fun c hc => Or.inr hc⟩
  | cons c rest =>
      have hc : c ≠ '/' := by
        obtain ⟨others, hothers⟩ := hfront
        have hhead := List.head?_dropWhile_not Path.isSlash path.toList
        rw [← hothers] at hhead
        simpa [Path.isSlash] using hhead
      refine ⟨?_, ?_, ?_⟩
      · intro hempty
        have hchars := congrArg String.toList hempty
        simp at hchars
      · simp [Path.isAbsolute, hc]
      · intro d hd
        rw [String.toList_ofList] at hd
        exact Or.inl ((List.dropWhile_sublist _).subset (hfront.subset hd))

theorem routeStem_hasExtension {path extension : String} (hpath : path.toList.all isPathCharacter)
    (hplain : Path.IsPlain extension) (hdot : '.' ∈ extension.toList)
    (hlength : 2 < extension.length) : Path.HasExtension (routeStem path ++ extension) := by
  obtain ⟨hne, hrelative, hsub⟩ := routeStem_spec path
  have hchars : ∀ c ∈ (routeStem path).toList, isPathCharacter c = true := by
    have hindex : "index".toList.all isPathCharacter = true := by decide
    intro c hc
    rcases hsub c hc with hroute | hroot
    · exact List.all_eq_true.mp hpath c hroute
    · exact List.all_eq_true.mp hindex c hroot
  have hsegments := (List.dropLast_append_getLast (Path.segments_ne_nil (routeStem path))).symm
  obtain ⟨hmem, hcurrent, hup⟩ := Path.extension_of_append _ hdot hlength
  refine ⟨?_, _, _, Path.segments_append_of_isPlain hsegments hplain, ?_, hmem, hcurrent, hup⟩
  · rw [Path.isAbsolute_append hne, hrelative]
  · intro s hs hdotted
    have hmem := (List.dropLast_sublist _).subset hs
    have hchar := hchars '.' (Path.mem_of_mem_segments hmem '.' hdotted).1
    exact absurd hchar (by decide)

theorem Page.segments_module (page : Page) :
    Path.segments (page.file .react) = ["src", "pages", page.componentName ++ ".tsx"] := by
  have hname : Path.IsPlain (page.componentName ++ ".tsx") := by
    intro hmem
    rw [String.toList_append, List.mem_append] at hmem
    rcases hmem with hname | hextension
    · have hchar := List.all_eq_true.mp (isIdentifier_identifierOf _).chars '/' hname
      exact absurd hchar (by decide)
    · exact absurd hextension (by decide)
  have hfile : page.file .react =
      "src" ++ "/" ++ ("pages" ++ "/" ++ (page.componentName ++ ".tsx")) := by
    simp only [Page.file, String.append_assoc]
    rfl
  rw [hfile, Path.segments_append_slash, Path.segments_append_slash, Path.segments_of_isPlain hname]
  rfl

theorem Page.module_hasExtension (page : Page) : Path.HasExtension (page.file .react) := by
  have hsegments : Path.segments (page.file .react) =
      ["src", "pages"] ++ [page.componentName ++ ".tsx"] := page.segments_module
  obtain ⟨hmem, hcurrent, hup⟩ := Path.extension_of_append page.componentName
    (show '.' ∈ ".tsx".toList by decide) (by decide)
  refine ⟨?_, _, _, hsegments, by decide, hmem, hcurrent, hup⟩
  rw [Path.isAbsolute_of_segments hsegments]
  rfl

theorem scaffold_hasExtension (project : Project) :
    ∀ a ∈ project.scaffold, Path.HasExtension a.1 := by
  simp only [Project.scaffold, scaffoldFiles, List.forall_mem_cons, List.not_mem_nil,
    false_implies, implies_true, and_true]
  refine ⟨?_, ?_, ?_, ?_⟩
  · exact ⟨rfl, [], "package.json", by decide, by decide, by decide, by decide, by decide⟩
  · exact ⟨rfl, [], "vite.config.ts", by decide, by decide, by decide, by decide, by decide⟩
  · exact ⟨rfl, [], "tsconfig.json", by decide, by decide, by decide, by decide, by decide⟩
  · exact ⟨rfl, [], "README.md", by decide, by decide, by decide, by decide, by decide⟩

/-! ## Exported files -/

theorem Project.mem_export {options : Options} {project : Project} {a : String × String}
    (ha : a ∈ project.export options) :
    a ∈ project.scaffold ∨ ∃ page ∈ project.pages, a.1 = page.file project.variant := by
  rcases FileMap.mem_insertAll ha with hpage | hscaffold
  · rw [pageFiles, List.mem_map] at hpage
    obtain ⟨page, hmem, hentry⟩ := hpage
    exact Or.inr ⟨page, hmem, by rw [← hentry]⟩
  · rcases FileMap.mem_insertAll hscaffold with hmem | hempty
    · exact Or.inl hmem
    · exact absurd hempty List.not_mem_nil

theorem Project.export_hasExtension (options : Options) {project : Project}
    (hproject : project.problems = [] ∨ project.type = .react) :
    ∀ a ∈ project.export options, Path.HasExtension a.1 := by
  intro a ha
  rcases Project.mem_export ha with hscaffold | ⟨page, hpage, hfile⟩
  · exact scaffold_hasExtension project a hscaffold
  rw [hfile]
  by_cases hreact : project.variant = .react
  · rw [hreact]
    exact page.module_hasExtension
  have hproblems : project.problems = [] := by
    apply hproject.resolve_right
    intro htype
    apply hreact
    rw [Project.variant, htype]
    rfl
  have hroute := ((Project.problems_eq_nil_iff.mp hproblems).2 page hpage).route
  have hchars := all_isPathCharacter_iff.mpr hroute.characters
  cases hvariant : project.variant with
  | react => exact absurd hvariant hreact
  | html => exact routeStem_hasExtension hchars (by decide) (by decide) (by decide)
  | php => exact routeStem_hasExtension hchars (by decide) (by decide) (by decide)

/-- A project without problems, and every project of page modules, is written as a whole: no path
is refused, and no file collides with a directory that another one needs. All that could stop it
in a vacant directory are the limits on names and lengths. -/
theorem export_delivered (options : Options) (project : Project)
    (hproject : project.problems = [] ∨ project.type = .react) :
    (project.export options).unsafePath? = none ∧ (project.export options).Compatible ∧
      ∀ (disk : Disk) (cwd : Location) (dir : String), disk.IsVacant cwd dir →
        (project.export options).OffWay cwd dir →
        (∀ a ∈ project.export options, Path.Fits (Path.join dir a.1)) →
          (deliver cwd dir (project.export options) disk).1 =
            .ok (project.export options).length := by
  have hextension := Project.export_hasExtension options hproject
  have hfiles : ∀ a ∈ project.export options, Path.NamesFile a.1 :=
    fun a ha => (hextension a ha).namesFile
  have hcompatible := FileMap.compatible_of_hasExtension hextension
  refine ⟨FileMap.unsafePath?_eq_none hfiles, hcompatible, ?_⟩
  intro disk cwd dir hvacant hway hfits
  exact deliver_of_vacant hvacant hway hfiles hcompatible hfits

/-- Routes with slashes behind each other and at their ends. -/
def slashedProject : Project :=
  { name := "Site"
    pages := [Page.atRoute "/" "Home", Page.atRoute "/about/" "About",
      Page.atRoute "/blog//post" "Post"] }

theorem slashedProject_problems : slashedProject.problems = [] := by
  have hindex : Index.ofForest [] = .ok Index.empty := by
    rw [Index.ofForest, Waiting.below, Index.extend.eq_def]
    rfl
  have hname : problemOf (checkName slashedProject.name) = [] := rfl
  have hpages : ∀ page ∈ slashedProject.pages, problemOf (checkPage page) = [] := by
    simp only [slashedProject, List.forall_mem_cons, checkPage, Page.atRoute, hindex]
    refine ⟨rfl, rfl, rfl, ?_⟩
    intro page hpage
    cases hpage
  rw [Project.problems, hname, List.flatMap_eq_nil_iff.mpr hpages]
  rfl

theorem slashedProject_paths : (slashedProject.export {}).map (·.1) =
    ["README.md", "about.html", "blog//post.html", "index.html", "package.json", "tsconfig.json",
      "vite.config.ts"] := by
  decide

def workDisk : Disk :=
  ⟨[(["work"], .directory)]⟩

theorem workDisk_isVacant : workDisk.IsVacant ["work"] "out/site" := by
  refine Disk.isVacant_of_stops (by decide) (by decide) ?_
  intro names _
  have hgoal : Path.goal ["work"] "out/site" = ["work", "out", "site"] := by decide
  rw [hgoal]
  rfl

theorem slashedProject_delivered : slashedProject.problems = [] ∧
    (slashedProject.export {}).unsafePath? = none ∧ (slashedProject.export {}).Compatible ∧
      (deliver ["work"] "out/site" (slashedProject.export {}) workDisk).1 =
        .ok (slashedProject.export {}).length := by
  have hpaths : ∀ P : String → Prop,
      (∀ path ∈ ["README.md", "about.html", "blog//post.html", "index.html", "package.json",
        "tsconfig.json", "vite.config.ts"], P path) → ∀ a ∈ slashedProject.export {}, P a.1 := by
    intro P hP
    rw [← slashedProject_paths] at hP
    exact List.forall_mem_map.mp hP
  have hway : (slashedProject.export {}).OffWay ["work"] "out/site" :=
    hpaths (fun path => ∀ stop ∈ (Path.start ["work"] "out/site").stops (Path.segments "out/site"),
      stop ≠ Path.goal ["work"] "out/site" ++ Path.names path) (by decide)
  have hfits : ∀ a ∈ slashedProject.export {}, Path.Fits (Path.join "out/site" a.1) :=
    hpaths (fun path => Path.Fits (Path.join "out/site" path)) (by decide)
  obtain ⟨hsafe, hcompatible, hdelivered⟩ :=
    export_delivered {} slashedProject (Or.inl slashedProject_problems)
  refine ⟨slashedProject_problems, hsafe, hcompatible, ?_⟩
  exact hdelivered workDisk ["work"] "out/site" workDisk_isVacant hway hfits

/-- It is not enough that the directory is not there yet. Making it for the first file can leave a
directory where that file belongs, and a file can stand on the way to it. -/
theorem absent_not_enough :
    ({ name := "Site" } : Project).problems = [] ∧
      (Disk.empty.IsVacant [] "out/README.md/.." ∧
        (deliver [] "out/README.md/.." (({ name := "Site" } : Project).export {}) Disk.empty).1 =
          .error (.io "out/README.md/../README.md" .isDirectory)) ∧
      (Disk.at? ⟨[(["out"], .file "")]⟩ (Path.goal [] "out/site") = none ∧
        (deliver [] "out/site" (({ name := "Site" } : Project).export {})
          ⟨[(["out"], .file "")]⟩).1 = .error (.io "out/site" .notDirectory)) := by
  have hvacant : Disk.empty.IsVacant [] "out/README.md/.." := by
    refine Disk.isVacant_of_stops (by decide) (by decide) ?_
    intro names _
    have hgoal : Path.goal [] "out/README.md/.." = ["out"] := by decide
    rw [hgoal]
    rfl
  exact ⟨rfl, ⟨hvacant, rfl⟩, rfl, rfl⟩

end StaticSite
