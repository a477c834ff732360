import StaticSite.CommandLine.Run
import StaticSite.Proofs.Disk.Ancestors
import StaticSite.Proofs.Disk.Containment
import StaticSite.Proofs.Results

/-!
# What a command changes

A command reads the settings and the project before it changes anything. Compiling a page fills
the one file that it names, exporting a project changes the output directory and makes the missing
directories above it, and validating a project changes nothing.
-/

namespace StaticSite

namespace CommandLine

/-- The settings and the project are what a command reads from the disk. -/
structure Surroundings.Reads (around : Surroundings) (disk : Disk) (settingsFile : Option String)
    (overrides : Overrides) (path : String) (settings : Settings) (project : Project) : Prop where
  settings : around.loadSettings disk settingsFile overrides = .ok settings
  project : around.loadProject disk path = .ok project

variable {around : Surroundings} {disk : Disk}

/-! ## Reading -/

theorem pageJob_eq_ok_iff {command : CompileCommand} {job : PageJob} :
    around.pageJob disk command = .ok job ↔
      ∃ settings project page,
        around.Reads disk command.settingsFile command.overrides command.project settings
          project ∧
        project.findPage? command.page = some page ∧
        job = ⟨optionsOf settings, project, page, command.variant.getD project.variant⟩ := by
  simp only [Surroundings.pageJob, bind_eq_ok_iff]
  constructor
  · rintro ⟨settings, hsettings, project, hproject, hjob⟩
    cases hpage : project.findPage? command.page with
    | none => simp [hpage] at hjob
    | some page =>
        simp only [hpage, pure, Except.pure, Except.ok.injEq] at hjob
        exact ⟨settings, project, page, ⟨hsettings, hproject⟩, hpage, hjob.symm⟩
  · rintro ⟨settings, project, page, hreads, hpage, rfl⟩
    exact ⟨settings, hreads.settings, project, hreads.project, by rw [hpage]; rfl⟩

theorem exportJob_eq_ok_iff {command : ExportCommand} {job : ExportJob} :
    around.exportJob disk command = .ok job ↔
      ∃ settings project,
        around.Reads disk command.settingsFile command.overrides command.project settings
          project ∧
        job = ⟨optionsOf settings, settings.outputDir, project⟩ := by
  simp only [Surroundings.exportJob, bind_eq_ok_iff]
  constructor
  · rintro ⟨settings, hsettings, project, hproject, hjob⟩
    exact ⟨settings, project, ⟨hsettings, hproject⟩, (Except.ok.inj hjob).symm⟩
  · rintro ⟨settings, project, hreads, rfl⟩
    exact ⟨settings, hreads.settings, project, hreads.project, rfl⟩

/-! ## Writing -/

theorem compile_disk (around : Surroundings) (command : CompileCommand) (disk : Disk) :
    (around.compile command disk).2 = disk ∨
      ∃ job path, around.pageJob disk command = .ok job ∧ command.output = some path ∧
        ∀ l, (around.compile command disk).2.at? l =
          if l = Path.goal around.cwd path then some (.file job.document) else disk.at? l := by
  rw [Surroundings.compile]
  cases hjob : around.pageJob disk command with
  | error e => exact Or.inl rfl
  | ok job =>
      cases houtput : command.output with
      | none => exact Or.inl rfl
      | some path =>
          cases hwrite : disk.write around.cwd path job.document with
          | error e =>
              left
              simp only [hwrite]
          | ok made =>
              obtain ⟨goal, hlocate, hfree, rfl⟩ := Disk.write_eq_ok hwrite
              obtain rfl := Disk.goal_of_locate hlocate
              refine Or.inr ⟨job, path, rfl, rfl, ?_⟩
              simp only [hwrite]
              exact Disk.at?_put disk (Disk.ne_nil_of_not_directory hfree) _

/-- Whatever a delivery comes to, an export leaves the disk that the delivery leaves. -/
theorem export_disk_of_job {command : ExportCommand} {job : ExportJob}
    (hjob : around.exportJob disk command = .ok job) :
    (around.export command disk).2 = (deliver around.cwd job.outputDir job.files disk).2 := by
  rw [Surroundings.export, hjob]
  cases hdone : deliver around.cwd job.outputDir job.files disk with
  | mk result after => cases result <;> simp only [hdone]

theorem export_disk (around : Surroundings) (command : ExportCommand) (disk : Disk) :
    (around.export command disk).2 = disk ∨
      ∃ job, around.exportJob disk command = .ok job ∧
        (∀ a ∈ job.files, ¬ Path.IsUnsafe a.1) ∧
        disk.ChangesBelow (around.export command disk).2 around.cwd job.outputDir := by
  cases hjob : around.exportJob disk command with
  | error e =>
      rw [Surroundings.export, hjob]
      exact Or.inl rfl
  | ok job =>
      rw [export_disk_of_job hjob]
      cases hunsafe : job.files.unsafePath? with
      | some path => exact Or.inl <| congrArg Prod.snd <| deliver_of_unsafePath hunsafe
      | none =>
          have hpaths := FileMap.unsafePath?_eq_none_iff.mp hunsafe
          refine Or.inr ⟨job, rfl, fun a ha => ?_, ?_⟩
          · rw [Path.isUnsafe_iff, hpaths a ha]
            exact Bool.noConfusion
          · rw [deliver_of_safe hunsafe]
            exact Disk.changesBelow_of_fate hpaths
              (Disk.fate_deliverAll hpaths (List.Subset.refl job.files))

/-- Nothing is changed before all is read. Then a compiled page fills the place that the command
names, and an export with safe paths stays below its output directory, apart from the missing
directories above that. -/
theorem run_changes (around : Surroundings) (disk : Disk) :
    (∀ path, (around.run disk (.validate path)).2 = disk) ∧
    (∀ command : CompileCommand,
      (around.run disk (.compile command)).2 = disk ∨
        ∃ settings project page path,
          around.Reads disk command.settingsFile command.overrides command.project settings
            project ∧
          project.findPage? command.page = some page ∧ command.output = some path ∧
          ∀ l, (around.run disk (.compile command)).2.at? l =
            if l = Path.goal around.cwd path then
              some (.file (page.compile (optionsOf settings) project
                (command.variant.getD project.variant)))
            else disk.at? l) ∧
    ∀ command : ExportCommand,
      (around.run disk (.export command)).2 = disk ∨
        ∃ settings project,
          around.Reads disk command.settingsFile command.overrides command.project settings
            project ∧
          (∀ a ∈ project.export (optionsOf settings), ¬ Path.IsUnsafe a.1) ∧
          disk.ChangesBelow (around.run disk (.export command)).2 around.cwd
            settings.outputDir := by
  refine ⟨fun _ => rfl, fun command => ?_, fun command => ?_⟩
  · refine (compile_disk around command disk).imp_right ?_
    rintro ⟨job, path, hjob, houtput, hchanges⟩
    obtain ⟨settings, project, page, hreads, hpage, rfl⟩ := pageJob_eq_ok_iff.mp hjob
    exact ⟨settings, project, page, path, hreads, hpage, houtput, hchanges⟩
  · refine (export_disk around command disk).imp_right ?_
    rintro ⟨job, hjob, hsafe, hchanges⟩
    obtain ⟨settings, project, hreads, rfl⟩ := exportJob_eq_ok_iff.mp hjob
    exact ⟨settings, project, hreads, hsafe, hchanges⟩

def draftDisk : Disk :=
  ⟨[(["work"], .directory),
    (["work", "site.json"], .file "\x7b\"pages\":[\x7b\"path\":\"/\"\x7d]\x7d"),
    (["work", "www.txt"], .file "kept")]⟩

/-- The directory above the output directory is missing too. -/
def draftExport : ExportCommand :=
  { project := "site.json", settingsFile := none, overrides := { outputDir := some "www/site" } }

theorem draftDisk_exported :
    draftDisk.at? ["work", "www"] = none ∧
      (Surroundings.run ⟨["work"], []⟩ draftDisk (.export draftExport)).2.at? ["work", "www"] =
        some .directory ∧
      ∃ settings project,
        Surroundings.Reads ⟨["work"], []⟩ draftDisk none draftExport.overrides "site.json" settings
          project ∧
        (∀ a ∈ project.export (optionsOf settings), ¬ Path.IsUnsafe a.1) ∧
        draftDisk.ChangesBelow
          (Surroundings.run ⟨["work"], []⟩ draftDisk (.export draftExport)).2 ["work"]
          settings.outputDir := by
  have hmade : (Surroundings.run ⟨["work"], []⟩ draftDisk (.export draftExport)).2.at?
      ["work", "www"] = some .directory := by decide +kernel
  refine ⟨rfl, hmade, ?_⟩
  rcases (run_changes ⟨["work"], []⟩ draftDisk).2.2 draftExport with hsame | hchanges
  · rw [hsame] at hmade
    cases hmade
  · exact hchanges

end CommandLine

end StaticSite
