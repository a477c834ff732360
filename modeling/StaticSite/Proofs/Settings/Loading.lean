import StaticSite.Proofs.Disk.Making
import StaticSite.Proofs.Results
import StaticSite.Proofs.Settings.Searching
import StaticSite.Proofs.Text.Ascii

/-!
# Loading settings

`Own` says which settings a run has without overrides: those of the file that is used, with its
references replaced, or those without a file. Loading succeeds exactly if there are such settings
and what the overrides make of them is sound. As the values of a file have to be sound before
anything overrides them, no override mends a file.
-/

namespace StaticSite

namespace Settings

/-- A language tag is made of ASCII letters, digits and hyphens. -/
structure IsLanguageTag (lang : String) : Prop where
  nonempty : lang ≠ ""
  characters : ∀ c ∈ lang.toList,
    'a' ≤ c ∧ c ≤ 'z' ∨ 'A' ≤ c ∧ c ≤ 'Z' ∨ '0' ≤ c ∧ c ≤ '9' ∨ c = '-'

structure IsSound (settings : Settings) : Prop where
  lang : IsLanguageTag settings.lang
  outputDir : settings.outputDir ≠ ""

/-- The text is that of a settings document, and these are the fields in it. -/
def Says (text : String) (lang : Option String) (escape : Option Bool)
    (outputDir : Option String) : Prop :=
  ∃ root, Toml.parse text = some root ∧ (FileValues.ofRoot? root).isSome ∧
    readField readString "lang" 0 (root.lookup "output") = some lang ∧
    readField readBool "escape" 1 (root.lookup "output") = some escape ∧
    readField readString "output_dir" 0 (root.lookup "export") = some outputDir

/-- A field with its references replaced, or its default if it is not there. -/
def expandedOr (environment : Environment) (default : String) :
    Option String → Except String String
  | none => .ok default
  | some text => expand environment text

/-- The settings of a run before anything overrides them. -/
inductive Own (disk : Disk) (cwd : Location) (environment : Environment) (path : Option String) :
    Settings → Prop
  | bare (hunused : ∀ file, ¬ IsUsed disk cwd path file) :
      Own disk cwd environment path ⟨"fr", false, Path.join (Location.path cwd) "dist", none⟩
  | file {file text lang dir : String} {lang? : Option String} {escape? : Option Bool}
      {dir? : Option String} (hused : IsUsed disk cwd path file)
      (hread : disk.read cwd file = .ok text) (htext : Says text lang? escape? dir?)
      (hlang : expandedOr environment "fr" lang? = .ok lang)
      (hdir : expandedOr environment "dist" dir? = .ok dir)
      (htag : IsLanguageTag lang) (hne : dir ≠ "") :
      Own disk cwd environment path ⟨lang, escape?.getD false,
        Path.join ((Path.parent? file).getD ".") dir, some file⟩

/-! ## Checks -/

theorem isTagCharacter_iff {c : Char} : isTagCharacter c = true ↔
    'a' ≤ c ∧ c ≤ 'z' ∨ 'A' ≤ c ∧ c ≤ 'Z' ∨ '0' ≤ c ∧ c ≤ '9' ∨ c = '-' := by
  rw [isTagCharacter]
  simp only [Bool.or_eq_true, decide_eq_true_iff, Text.isAlphanum_iff]
  tauto

theorem isLanguageTag_iff {lang : String} :
    IsLanguageTag lang ↔ lang ≠ "" ∧ lang.toList.all isTagCharacter = true := by
  simp only [List.all_eq_true, isTagCharacter_iff]
  exact ⟨fun h => ⟨h.1, h.2⟩, fun h => ⟨h.1, h.2⟩⟩

instance (lang : String) : Decidable (IsLanguageTag lang) :=
  decidable_of_iff _ isLanguageTag_iff.symm

theorem check_eq_ok_iff {settings checked : Settings} :
    settings.check = .ok checked ↔ checked = settings ∧ settings.IsSound := by
  have hsound : settings.IsSound ↔ (settings.lang ≠ "" ∧
      settings.lang.toList.all isTagCharacter = true) ∧ settings.outputDir ≠ "" := by
    rw [← isLanguageTag_iff]
    exact ⟨fun h => ⟨h.1, h.2⟩, fun h => ⟨h.1, h.2⟩⟩
  rw [hsound, check]
  split_ifs with hempty hform hdir
  · simp_all
  · have hfails : settings.lang.toList.all isTagCharacter = false := by simpa using hform
    simp [hfails]
  · simp_all
  · have hholds : settings.lang.toList.all isTagCharacter = true := by simpa using hform
    have hlang : settings.lang ≠ "" := by simpa using hempty
    have houtput : settings.outputDir ≠ "" := by simpa using hdir
    rw [Except.ok.injEq, eq_comm]
    exact ⟨fun h => ⟨h, ⟨hlang, hholds⟩, houtput⟩, And.left⟩

theorem join_ne_empty (base : String) {path : String} (hpath : path ≠ "") :
    Path.join base path ≠ "" := by
  rw [Path.join]
  split_ifs
  · exact hpath
  · simp [hpath]
  · simp [hpath]

/-! ## Files -/

theorem FileValues.eq_of_ofRoot? {root : Toml.Entries} {values : FileValues}
    (h : FileValues.ofRoot? root = some values) :
    ∃ lang escape,
      readField readString "lang" 0 (root.lookup "output") = some lang ∧
      readField readBool "escape" 1 (root.lookup "output") = some escape ∧
      readField readString "output_dir" 0 (root.lookup "export") = some values.outputDir ∧
      values = ⟨lang.getD "fr", escape.getD false, values.outputDir⟩ := by
  simp only [ofRoot?, Option.bind_eq_bind, Option.bind_eq_some_iff] at h
  obtain ⟨lang, hlang, escape, hescape, dir, hdir, h⟩ := h
  split_ifs at h
  rw [Option.pure_def, Option.some.injEq] at h
  subst h
  exact ⟨lang, escape, hlang, hescape, hdir, rfl⟩

section File

variable {environment : Environment} {text : String} {lang? dir? : Option String}
  {escape? : Option Bool}

theorem Says.unique {other? dir?' : Option String} {escape?' : Option Bool}
    (h : Says text lang? escape? dir?) (hother : Says text other? escape?' dir?') :
    lang? = other? ∧ dir? = dir?' := by
  obtain ⟨root, hparse, _, hlang, _, hdir⟩ := h
  obtain ⟨root', hparse', _, hlang', _, hdir'⟩ := hother
  obtain rfl : root = root' := Option.some.inj (hparse.symm.trans hparse')
  exact ⟨Option.some.inj (hlang.symm.trans hlang'), Option.some.inj (hdir.symm.trans hdir')⟩

theorem Says.values (h : Says text lang? escape? dir?) :
    (Toml.parse text).bind FileValues.ofRoot? =
      some ⟨lang?.getD "fr", escape?.getD false, dir?⟩ := by
  obtain ⟨root, hparse, hroot, hlang, hescape, hdir⟩ := h
  obtain ⟨values, hvalues⟩ := Option.isSome_iff_exists.mp hroot
  obtain ⟨lang', escape', hlang', hescape', hdir', hfields⟩ := FileValues.eq_of_ofRoot? hvalues
  rw [hlang, Option.some.injEq] at hlang'
  rw [hescape, Option.some.injEq] at hescape'
  rw [hdir, Option.some.injEq] at hdir'
  rw [hparse, Option.bind_some, hvalues, hfields, hlang', hescape', ← hdir']

theorem says_of_values {values : FileValues}
    (h : (Toml.parse text).bind FileValues.ofRoot? = some values) :
    ∃ lang? escape?, Says text lang? escape? values.outputDir ∧
      values = ⟨lang?.getD "fr", escape?.getD false, values.outputDir⟩ := by
  obtain ⟨root, hparse, hroot⟩ := Option.bind_eq_some_iff.mp h
  obtain ⟨lang?, escape?, hlang, hescape, hdir, hfields⟩ := FileValues.eq_of_ofRoot? hroot
  have haccepted : (FileValues.ofRoot? root).isSome := by rw [hroot, Option.isSome_some]
  exact ⟨lang?, escape?, ⟨root, hparse, haccepted, hlang, hescape, hdir⟩, hfields⟩

/-- The default of the language has no references. -/
theorem expandField_lang {name lang : String} :
    expandField environment name (lang?.getD "fr") = .ok lang ↔
      expandedOr environment "fr" lang? = .ok lang := by
  rw [expandField, mapError_eq_ok_iff]
  cases lang? with
  | none => rfl
  | some text => rfl

theorem bind_outputDir {name : String} {α : Type} {a : α}
    {next : String → Except SettingsError α} :
    (match dir? with
      | none => Except.ok fallbackDir >>= next
      | some text => expandField environment name text >>= next) = .ok a ↔
      ∃ dir, expandedOr environment "dist" dir? = .ok dir ∧ next dir = .ok a := by
  cases dir? with
  | none => simp [bind_eq_ok_iff, expandedOr, fallbackDir]
  | some text =>
      simp only [bind_eq_ok_iff, expandField, mapError_eq_ok_iff]
      rfl

theorem ofFile_eq_ok_iff {path : String} {settings : Settings} :
    ofFile environment path text = .ok settings ↔
      ∃ lang? escape? dir? lang dir, Says text lang? escape? dir? ∧
        expandedOr environment "fr" lang? = .ok lang ∧
        expandedOr environment "dist" dir? = .ok dir ∧ IsLanguageTag lang ∧ dir ≠ "" ∧
        settings = ⟨lang, escape?.getD false,
          Path.join ((Path.parent? path).getD ".") dir, some path⟩ := by
  constructor
  · intro h
    rw [ofFile] at h
    split at h
    · cases h
    next values hvalues =>
      obtain ⟨lang?, escape?, htext, hfields⟩ := says_of_values hvalues
      rw [hfields, bind_eq_ok_iff] at h
      obtain ⟨lang, hlang, h⟩ := h
      obtain ⟨dir, hdir, h⟩ := bind_outputDir.mp h
      dsimp only at h
      split_ifs at h with hempty
      obtain ⟨rfl, hsound⟩ := check_eq_ok_iff.mp h
      exact ⟨lang?, escape?, values.outputDir, lang, dir, htext, expandField_lang.mp hlang,
        hdir, hsound.lang, by simpa using hempty, rfl⟩
  · rintro ⟨lang?, escape?, dir?, lang, dir, htext, hlang, hdir, htag, hne, rfl⟩
    rw [ofFile, htext.values]
    refine bind_eq_ok_iff.mpr ⟨lang, expandField_lang.mpr hlang, ?_⟩
    refine bind_outputDir.mpr ⟨dir, hdir, ?_⟩
    dsimp only
    rw [if_neg (by simpa using hne)]
    exact check_eq_ok_iff.mpr ⟨rfl, htag, join_ne_empty _ hne⟩

end File

/-! ## Loading -/

section Run

variable {disk : Disk} {cwd : Location} {environment : Environment} {path : Option String}
  {overrides : Option Overrides} {settings own : Settings}

theorem readFile_eq_ok_iff {file : String} :
    readFile disk cwd environment file = .ok settings ↔
      ∃ text, disk.read cwd file = .ok text ∧ ofFile environment file text = .ok settings := by
  rw [readFile, bind_eq_ok_iff]
  simp only [mapError_eq_ok_iff]

theorem hasPath_of_read {file text : String} (h : disk.read cwd file = .ok text) :
    disk.hasPath cwd file = true := by
  obtain ⟨location, hlocate, hat⟩ := bind_eq_ok_iff.mp h
  have hentry : (disk.at? location).isSome := by
    cases hnone : disk.at? location with
    | none => simp [hnone] at hat
    | some entry => rfl
  rw [Disk.hasPath, Disk.entryAt?, hlocate]
  exact hentry

theorem own_of_file {file : String} (hused : IsUsed disk cwd path file) :
    Own disk cwd environment path own ↔
      readFile disk cwd environment file = .ok own := by
  rw [readFile_eq_ok_iff]
  simp only [ofFile_eq_ok_iff]
  constructor
  · intro h
    cases h with
    | bare hunused => exact absurd hused (hunused file)
    | @file other text lang dir lang? escape? dir? hother hread htext hlang hdir htag hne =>
        obtain rfl := hother.unique hused
        exact ⟨text, hread, lang?, escape?, dir?, lang, dir, htext, hlang, hdir, htag, hne, rfl⟩
  · rintro ⟨text, hread, lang?, escape?, dir?, lang, dir, htext, hlang, hdir, htag, hne, rfl⟩
    exact .file hused hread htext hlang hdir htag hne

theorem withoutOverrides_eq_ok_iff :
    withoutOverrides disk cwd environment path = .ok own ↔
      Own disk cwd environment path own := by
  cases path with
  | some file =>
      rw [withoutOverrides, own_of_file (Or.inl rfl)]
      split_ifs with hpath
      · rfl
      · constructor
        · intro h
          cases h
        intro h
        obtain ⟨text, hread, _⟩ := readFile_eq_ok_iff.mp h
        exact hpath (hasPath_of_read hread)
  | none =>
      rw [withoutOverrides]
      cases hsearch : search? disk cwd with
      | some file => rw [own_of_file (isUsed_iff.mpr (by simpa using hsearch))]
      | none =>
          have hunused : ∀ file, ¬ IsUsed disk cwd none file := by
            intro file hused
            rw [isUsed_iff, hsearch] at hused
            cases hused
          simp only [Except.ok.injEq]
          constructor
          · rintro rfl
            exact .bare hunused
          · intro h
            cases h with
            | bare => rfl
            | file hused => exact absurd hused (hunused _)

theorem Own.isSound (h : Own disk cwd environment path own) : own.IsSound := by
  cases h with
  | bare =>
      have hlang : IsLanguageTag "fr" := by decide
      have hdir : "dist" ≠ "" := by decide
      exact ⟨hlang, join_ne_empty (Location.path cwd) hdir⟩
  | file _ _ _ _ _ htag hne => exact ⟨htag, join_ne_empty _ hne⟩

theorem load_eq_ok_iff :
    load disk cwd environment path overrides = .ok settings ↔
      ∃ own, Own disk cwd environment path own ∧
        settings = own.override (overrides.getD {}) ∧ settings.IsSound := by
  rw [load, bind_eq_ok_iff]
  simp only [withoutOverrides_eq_ok_iff]
  refine exists_congr fun own => and_congr_right fun hown => ?_
  cases overrides with
  | none =>
      simp only [Except.ok.injEq, Option.getD_none]
      constructor
      · rintro rfl
        exact ⟨rfl, hown.isSound⟩
      · rintro ⟨rfl, _⟩
        rfl
  | some overrides =>
      rw [Option.getD_some, check_eq_ok_iff]
      exact and_congr_right fun h => by rw [h]

/-- What loading gives, and that no override mends a file with a wrong value. -/
theorem load_spec (disk : Disk) (cwd : Location) (environment : Environment)
    (path : Option String) (overrides : Option Overrides) :
    (∀ settings, load disk cwd environment path overrides = .ok settings ↔
      ∃ own, Own disk cwd environment path own ∧ settings.IsSound ∧
        settings.lang = (overrides.getD {}).lang.getD own.lang ∧
        settings.escape = (overrides.getD {}).escape.getD own.escape ∧
        settings.outputDir = (overrides.getD {}).outputDir.getD own.outputDir ∧
        settings.file = own.file) ∧
    ∀ file text lang? escape? dir?, IsUsed disk cwd path file → disk.read cwd file = .ok text →
      Says text lang? escape? dir? →
      (∃ name, expandedOr environment "fr" lang? = .error name) ∨
        (∃ name, expandedOr environment "dist" dir? = .error name) ∨
        (∃ lang, expandedOr environment "fr" lang? = .ok lang ∧ ¬ IsLanguageTag lang) ∨
        expandedOr environment "dist" dir? = .ok "" →
      ∃ e, load disk cwd environment path overrides = .error e := by
  constructor
  · intro settings
    rw [load_eq_ok_iff]
    refine exists_congr fun own => and_congr_right fun _ => ?_
    obtain ⟨lang, escape, dir, file⟩ := settings
    simp only [override, Settings.mk.injEq]
    tauto
  · intro file text lang? escape? dir? hused hread htext hwrong
    cases hresult : load disk cwd environment path overrides with
    | error e => exact ⟨e, rfl⟩
    | ok settings =>
        exfalso
        obtain ⟨own, hown, _⟩ := load_eq_ok_iff.mp hresult
        obtain ⟨text', hread', hfile⟩ := readFile_eq_ok_iff.mp ((own_of_file hused).mp hown)
        obtain ⟨lang?', escape?', dir?', lang, dir, htext', hlang, hdir, htag, hne, _⟩ :=
          ofFile_eq_ok_iff.mp hfile
        obtain rfl : text = text' := Except.ok.inj (hread.symm.trans hread')
        obtain ⟨rfl, rfl⟩ := htext.unique htext'
        rw [hlang, hdir] at hwrong
        rcases hwrong with ⟨_, ⟨⟩⟩ | ⟨_, ⟨⟩⟩ | ⟨_, ⟨⟩, hform⟩ | hempty
        · exact hform htag
        · exact hne (Except.ok.inj hempty)

end Run

/-- The language comes from a variable, and so may the output directory. -/
def nestedText : String :=
  "[output]\nlang = '$\x7bTAG\x7d'\n[export]\noutput_dir = '$\x7bOUT:-www\x7d'\n"

/-- There is a settings file in the directory above the working directory, and another one further
up. -/
def nestedDisk : Disk :=
  ⟨[(["work"], .directory), (["work", "siteforge.toml"], .file "[output]\nescape = true\n"),
    (["work", "site"], .directory), (["work", "site", "siteforge.toml"], .file nestedText),
    (["work", "site", "pages"], .directory)]⟩

theorem nestedDisk_used :
    IsUsed nestedDisk ["work", "site", "pages"] none "/work/site/siteforge.toml" :=
  isUsed_iff.mpr (by decide +kernel)

theorem nestedText_says :
    Says nestedText (some "$\x7bTAG\x7d") none (some "$\x7bOUT:-www\x7d") := by
  have hparse : (Toml.parse nestedText).isSome := by decide +kernel
  refine ⟨(Toml.parse nestedText).get hparse, (Option.some_get hparse).symm, ?_⟩
  decide +kernel +revert

/-- With the variable unset, naming a language does not help. -/
theorem nestedDisk_loaded :
    load nestedDisk ["work", "site", "pages"] [("TAG", "pt-BR")] none
        (some { escape := some true }) =
      .ok ⟨"pt-BR", true, "/work/site/www", some "/work/site/siteforge.toml"⟩ ∧
    ∃ e, load nestedDisk ["work", "site", "pages"] [] none (some { lang := some "en" }) =
      .error e := by
  have hread : nestedDisk.read ["work", "site", "pages"] "/work/site/siteforge.toml" =
      .ok nestedText := rfl
  have hlang : expandedOr [("TAG", "pt-BR")] "fr" (some "$\x7bTAG\x7d") = .ok "pt-BR" := by
    decide +kernel
  have hdir : expandedOr [("TAG", "pt-BR")] "dist" (some "$\x7bOUT:-www\x7d") = .ok "www" := by
    decide +kernel
  have hunset : expandedOr [] "fr" (some "$\x7bTAG\x7d") = .error "TAG" := by decide +kernel
  have htag : IsLanguageTag "pt-BR" := by decide
  constructor
  · refine ((load_spec _ _ _ none _).1 _).mpr
      ⟨_, .file nestedDisk_used hread nestedText_says hlang hdir htag (by decide),
        ⟨htag, by decide⟩, rfl, rfl, ?_, rfl⟩
    decide +kernel
  · exact (load_spec _ _ _ none _).2 _ _ _ _ _ nestedDisk_used hread nestedText_says
      (Or.inl ⟨"TAG", hunset⟩)

end Settings

end StaticSite
