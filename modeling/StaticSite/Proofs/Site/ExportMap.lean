import StaticSite.Proofs.Site.FileMaps

/-!
# What an export holds

The keys of an export are the paths of the scaffold and of the pages. Of the pages with one path
the last one is there. No page ever has the path of a scaffold file, for the extensions differ; so
the scaffold of an export hangs on the name and the description of the project alone.
-/

namespace StaticSite

def scaffoldPaths : List String :=
  ["package.json", "vite.config.ts", "tsconfig.json", "README.md"]

theorem scaffoldFiles_paths (name description : String) :
    (scaffoldFiles name description).map (·.1) = scaffoldPaths := rfl

/-! ## Paths of pages -/

def Variant.extension : Variant → String
  | .react => ".tsx"
  | .php => ".php"
  | .html => ".html"

theorem Page.file_extension (page : Page) (variant : Variant) :
    variant.extension.toList <:+ (page.file variant).toList := by
  cases variant with
  | html | php | react =>
      rw [Page.file, String.toList_append]
      exact List.suffix_append _ _

theorem Page.file_not_mem_scaffoldPaths (page : Page) (variant : Variant) :
    page.file variant ∉ scaffoldPaths := by
  have hother : ∀ path ∈ scaffoldPaths, ¬ variant.extension.toList <:+ path.toList := by
    cases variant <;> decide
  intro hmem
  exact hother _ hmem (page.file_extension variant)

/-! ## The map of a project -/

namespace Project

theorem mem_export_keys {options : Options} {project : Project} {path : String} :
    path ∈ (project.export options).map (·.1) ↔
      path ∈ scaffoldPaths ∨ ∃ page ∈ project.pages, page.file project.variant = path := by
  have hpages : path ∈ (project.pageFiles options).map (·.1) ↔
      ∃ page ∈ project.pages, page.file project.variant = path := by
    simp [pageFiles]
  have hscaffold : path ∈ (FileMap.ofList project.scaffold).map (·.1) ↔ path ∈ scaffoldPaths := by
    rw [FileMap.ofList, FileMap.mem_keys_insertAll, scaffold, scaffoldFiles_paths]
    simp
  rw [Project.export, FileMap.mem_keys_insertAll, hpages, hscaffold, or_comm]

theorem export_page {options : Options} {project : Project} {before after : List Page} {page : Page}
    (hpages : project.pages = before ++ page :: after)
    (hlast : ∀ later ∈ after, later.file project.variant ≠ page.file project.variant) :
    (project.export options).get? (page.file project.variant) =
      some (page.compile options project project.variant) := by
  rw [Project.export, pageFiles, hpages, List.map_append, List.map_cons]
  apply FileMap.get?_insertAll_of_last
  rw [List.map_map, List.mem_map]
  rintro ⟨later, hmem, hsame⟩
  exact hlast later hmem hsame

/-- What an export holds under the path of a scaffold file is there before the pages come. -/
theorem export_scaffold (options : Options) (project : Project) {path : String}
    (hpath : path ∈ scaffoldPaths) :
    (project.export options).get? path =
      (FileMap.ofList (scaffoldFiles project.name project.description)).get? path := by
  apply FileMap.get?_insertAll_of_not_mem
  rw [pageFiles, List.map_map, List.mem_map]
  rintro ⟨page, _, rfl⟩
  exact page.file_not_mem_scaffoldPaths project.variant hpath

theorem scaffold_get? (name description : String) :
    ∀ a ∈ scaffoldFiles name description,
      (FileMap.ofList (scaffoldFiles name description)).get? a.1 = some a.2 := by
  have hdistinct : scaffoldPaths.Nodup := by decide
  intro a ha
  obtain ⟨before, after, hsplit⟩ := List.append_of_mem ha
  rw [FileMap.ofList, hsplit]
  apply FileMap.get?_insertAll_of_last
  rw [← scaffoldFiles_paths name description, hsplit, List.map_append, List.map_cons] at hdistinct
  exact (List.nodup_cons.mp (List.nodup_append.mp hdistinct).2.1).1

end Project

/-- An export holds its scaffold files and its pages, and of the pages with one path the last one.
Whatever else two projects have, with one name and one description they have one scaffold. -/
theorem export_entries (options : Options) (project : Project) :
    (project.export options).Ascending ∧
      (∀ path, path ∈ (project.export options).map (·.1) ↔
        path ∈ scaffoldPaths ∨ ∃ page ∈ project.pages, page.file project.variant = path) ∧
      (∀ before page after, project.pages = before ++ page :: after →
        (∀ later ∈ after, later.file project.variant ≠ page.file project.variant) →
          (project.export options).get? (page.file project.variant) =
            some (page.compile options project project.variant)) ∧
      (∀ (page : Page) (variant : Variant), page.file variant ∉ scaffoldPaths) ∧
      (∀ a ∈ scaffoldFiles project.name project.description,
        (project.export options).get? a.1 = some a.2) ∧
      ∀ (otherOptions : Options) (other : Project), other.name = project.name →
        other.description = project.description → ∀ path ∈ scaffoldPaths,
          (other.export otherOptions).get? path = (project.export options).get? path := by
  refine ⟨project.export_ascending options, fun _ => Project.mem_export_keys, ?_,
    Page.file_not_mem_scaffoldPaths, ?_, ?_⟩
  · intro before page after hpages hlast
    exact Project.export_page hpages hlast
  · intro a ha
    have hpath : a.1 ∈ scaffoldPaths := List.mem_map_of_mem (f := Prod.fst) ha
    rw [project.export_scaffold options hpath]
    exact Project.scaffold_get? _ _ a ha
  · intro otherOptions other hname hdescription path hpath
    rw [other.export_scaffold otherOptions hpath, project.export_scaffold options hpath, hname,
      hdescription]

def firstPage : Page := Page.atRoute "/same" "First"

def secondPage : Page := Page.atRoute "same//" "Second"

def oncePage : Page := Page.atRoute "/README.md" "Once"

/-- Two routes with one file, and a page that is called like a scaffold file. -/
def crowdedProject : Project :=
  { name := "Dup", pages := [firstPage, oncePage, secondPage] }

theorem crowdedProject_entries :
    (crowdedProject.export {}).get? "same.html" =
        some (secondPage.compile {} crowdedProject .html) ∧
      (crowdedProject.export {}).get? "README.md" = some (readme "Dup" "") ∧
      (({ name := "Dup", type := .react } : Project).export { lang := "en" }).get? "README.md" =
        (crowdedProject.export {}).get? "README.md" := by
  obtain ⟨_, _, hpage, _, hscaffold, hsame⟩ := export_entries {} crowdedProject
  refine ⟨?_, ?_, ?_⟩
  · exact hpage [firstPage, oncePage] secondPage [] rfl (by simp)
  · exact hscaffold ("README.md", readme "Dup" "") (by simp [scaffoldFiles, crowdedProject])
  · exact hsame { lang := "en" } { name := "Dup", type := .react } rfl rfl "README.md" (by decide)

end StaticSite
