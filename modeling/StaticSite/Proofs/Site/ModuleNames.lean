import Mathlib.Logic.Relation
import StaticSite.Proofs.Disk.Containment
import StaticSite.Proofs.Site.Exporting

/-!
# Names of page modules

A page module is named by the characters of the page's name that an identifier may have. So
characters that none has can come and go, and a name that is an identifier is kept as it is. As the
name of a file it never leads out of the directory of the modules.
-/

namespace StaticSite

open Text

/-- Letters of ASCII, underscores and dollar signs. -/
def IsIdentifierStart (c : Char) : Prop :=
  'a' ≤ c ∧ c ≤ 'z' ∨ 'A' ≤ c ∧ c ≤ 'Z' ∨ c = '_' ∨ c = '$'

def IsIdentifierPart (c : Char) : Prop :=
  IsIdentifierStart c ∨ '0' ≤ c ∧ c ≤ '9'

instance (c : Char) : Decidable (IsIdentifierStart c) :=
  inferInstanceAs (Decidable (_ ∨ _))

instance (c : Char) : Decidable (IsIdentifierPart c) :=
  inferInstanceAs (Decidable (_ ∨ _))

/-- One character that no identifier has is put into a text or taken out. -/
inductive Touched : String → String → Prop
  | insert (before behind : String) {c : Char} (hc : ¬IsIdentifierPart c) :
      Touched (before ++ behind) (before ++ String.singleton c ++ behind)
  | remove (before behind : String) {c : Char} (hc : ¬IsIdentifierPart c) :
      Touched (before ++ String.singleton c ++ behind) (before ++ behind)

/-! ## Characters of identifiers -/

theorem isIdentifierCharacter_iff {c : Char} :
    isIdentifierCharacter c = true ↔ IsIdentifierPart c := by
  rw [isIdentifierCharacter, IsIdentifierPart, IsIdentifierStart]
  simp only [Bool.or_eq_true, decide_eq_true_iff, isAlphanum_iff]
  tauto

theorem IsIdentifierPart.start {c : Char} (h : IsIdentifierPart c) (hdigit : c.isDigit = false) :
    IsIdentifierStart c := by
  rcases h with hstart | hrange
  · exact hstart
  · have hc : c.isDigit = true := by
      rw [Char.isDigit, Bool.and_eq_true, decide_eq_true_iff, decide_eq_true_iff]
      exact hrange
    rw [hc] at hdigit
    cases hdigit

theorem IsIdentifierPart.ink {c : Char} (h : IsIdentifierPart c) : isBlank c = false := by
  rcases h with (hrange | hrange | rfl | rfl) | hrange
  · exact isBlank_of_isAlphanum (isAlphanum_iff.mpr (.inl hrange))
  · exact isBlank_of_isAlphanum (isAlphanum_iff.mpr (.inr (.inl hrange)))
  · decide
  · decide
  · exact isBlank_of_isAlphanum (isAlphanum_iff.mpr (.inr (.inr hrange)))

theorem IsIdentifier.front {name : String} (h : IsIdentifier name) :
    ∃ first rest, name.toList = first :: rest ∧ IsIdentifierStart first ∧
      ∀ c ∈ rest, IsIdentifierPart c := by
  obtain ⟨hchars, first, hhead, hdigit⟩ := h
  obtain ⟨rest, hname⟩ := List.head?_eq_some_iff.mp hhead
  rw [hname, List.all_cons, Bool.and_eq_true, List.all_eq_true] at hchars
  have hfirst : IsIdentifierPart first := isIdentifierCharacter_iff.mp hchars.1
  exact ⟨first, rest, hname, hfirst.start hdigit,
    fun c hc => isIdentifierCharacter_iff.mp (hchars.2 c hc)⟩

/-! ## Names and their characters -/

theorem identifierOf_congr {s t : String}
    (h : s.toList.filter isIdentifierCharacter = t.toList.filter isIdentifierCharacter) :
    identifierOf s = identifierOf t := by
  rw [identifierOf, identifierOf, h]

theorem IsIdentifier.identifierOf_eq {name : String} (h : IsIdentifier name) :
    identifierOf name = name := by
  obtain ⟨hchars, first, hhead, hdigit⟩ := h
  obtain ⟨rest, hname⟩ := List.head?_eq_some_iff.mp hhead
  have hkept : name.toList.filter isIdentifierCharacter = first :: rest := by
    rw [List.filter_eq_self.mpr (List.all_eq_true.mp hchars), hname]
  rw [identifierOf, hkept]
  simp [hdigit, ← hname]

theorem Touched.filter_eq {s t : String} (h : Touched s t) :
    t.toList.filter isIdentifierCharacter = s.toList.filter isIdentifierCharacter := by
  have hdropped {c : Char} (hc : ¬IsIdentifierPart c) : isIdentifierCharacter c = false :=
    Bool.eq_false_iff.mpr (mt isIdentifierCharacter_iff.mp hc)
  cases h with
  | insert before behind hc => simp [hdropped hc]
  | remove before behind hc => simp [hdropped hc]

theorem filter_eq_of_touched {s t : String} (h : Relation.ReflTransGen Touched s t) :
    t.toList.filter isIdentifierCharacter = s.toList.filter isIdentifierCharacter := by
  induction h with
  | refl => rfl
  | tail _ hstep ih => rw [hstep.filter_eq, ih]

/-! ## Names of pages -/

theorem Page.componentName_of_mem {page : Page} {c : Char} (hc : c ∈ page.name.toList)
    (hpart : IsIdentifierPart c) : page.componentName = identifierOf page.name := by
  have hink : ∃ c ∈ page.name.toList, isBlank c = false := ⟨c, hc, hpart.ink⟩
  rw [Page.componentName, if_neg (not_isBlankText hink)]

theorem Page.componentName_of_isIdentifier {page : Page} (h : IsIdentifier page.name) :
    page.componentName = page.name := by
  obtain ⟨first, rest, hname, hstart, -⟩ := h.front
  have hmem : first ∈ page.name.toList := by
    rw [hname]
    exact List.mem_cons_self
  rw [Page.componentName_of_mem hmem (.inl hstart), h.identifierOf_eq]

theorem Page.componentName_of_touched {page other : Page} {c : Char} (hc : c ∈ page.name.toList)
    (hpart : IsIdentifierPart c) (h : Relation.ReflTransGen Touched page.name other.name) :
    other.componentName = page.componentName := by
  have hfilter := filter_eq_of_touched h
  have hother : c ∈ other.name.toList := by
    have hkept : c ∈ other.name.toList.filter isIdentifierCharacter := by
      rw [hfilter]
      exact List.mem_filter.mpr ⟨hc, isIdentifierCharacter_iff.mpr hpart⟩
    exact List.mem_of_mem_filter hkept
  rw [Page.componentName_of_mem hother hpart, Page.componentName_of_mem hc hpart,
    identifierOf_congr hfilter]

/-! ## Files of page modules -/

theorem deliver_refuses {cwd : Location} {dir path : String} {files : FileMap} {disk : Disk}
    (h : (deliver cwd dir files disk).1 = .error (.unsafePath path)) :
    Path.isContained path = false := by
  cases hfirst : files.unsafePath? with
  | none =>
      rw [deliver_of_safe hfirst] at h
      rcases deliverAll_result cwd dir files disk with hdone | ⟨_, _, hdone⟩
      · rw [hdone] at h
        cases h
      · rw [hdone] at h
        cases h
  | some first =>
      obtain ⟨a, ha, rfl⟩ := Option.map_eq_some_iff.mp hfirst
      rw [deliver_of_unsafePath hfirst] at h
      cases h
      simpa using List.find?_some ha

theorem Page.module_accepted (page : Page) (cwd : Location) (dir : String) (files : FileMap)
    (disk : Disk) : (deliver cwd dir files disk).1 ≠ .error (.unsafePath (page.file .react)) := by
  intro h
  have hcontained := page.module_hasExtension.namesFile.contained
  rw [deliver_refuses h] at hcontained
  cases hcontained

theorem Page.module_delivered (page : Page) {cwd : Location} {dir content : String} {disk : Disk}
    (hvacant : disk.IsVacant cwd dir)
    (hway : FileMap.OffWay [(page.file .react, content)] cwd dir)
    (hfits : Path.Fits (Path.join dir (page.file .react))) :
    (deliver cwd dir [(page.file .react, content)] disk).1 = .ok 1 := by
  have hextension : ∀ a ∈ [(page.file .react, content)], Path.HasExtension a.1 := by
    rw [List.forall_mem_singleton]
    exact page.module_hasExtension
  refine deliver_of_vacant hvacant hway (fun a ha => (hextension a ha).namesFile)
    (FileMap.compatible_of_hasExtension hextension) ?_
  rw [List.forall_mem_singleton]
  exact hfits

theorem Page.module_normal (page : Page) :
    ∀ s ∈ Path.segments (page.file .react), s ∉ ["", ".", ".."] := by
  obtain ⟨hdot, hcurrent, hup⟩ := Path.extension_of_append page.componentName
    (show '.' ∈ ".tsx".toList by decide) (by decide)
  have hempty : page.componentName ++ ".tsx" ≠ "" := by
    intro hempty
    rw [hempty] at hdot
    cases hdot
  rw [page.segments_module]
  simp [hempty, hcurrent, hup]

/-- The name of a page module is an identifier. A page that has it as its name keeps it, and
characters that no identifier has make no difference to it as long as another one is there. The
file of the module has a path of three proper names, which no delivery refuses. -/
theorem module_name_exact (page : Page) :
    (∃ first rest, page.componentName.toList = first :: rest ∧ IsIdentifierStart first ∧
        ∀ c ∈ rest, IsIdentifierPart c) ∧
      (∀ other : Page, other.name = page.componentName →
        other.componentName = page.componentName) ∧
      (∀ other : Page, Relation.ReflTransGen Touched page.name other.name →
        (∃ c ∈ page.name.toList, IsIdentifierPart c) →
          other.componentName = page.componentName) ∧
      Path.segments (page.file .react) = ["src", "pages", page.componentName ++ ".tsx"] ∧
      (∀ s ∈ Path.segments (page.file .react), s ∉ ["", ".", ".."]) ∧
      (∀ cwd dir files disk,
        (deliver cwd dir files disk).1 ≠ .error (.unsafePath (page.file .react))) ∧
      (∀ (cwd : Location) (dir content : String) (disk : Disk), disk.IsVacant cwd dir →
        FileMap.OffWay [(page.file .react, content)] cwd dir →
          Path.Fits (Path.join dir (page.file .react)) →
            (deliver cwd dir [(page.file .react, content)] disk).1 = .ok 1) := by
  have hname : IsIdentifier page.componentName := isIdentifier_identifierOf _
  refine ⟨hname.front, ?_, ?_, page.segments_module, page.module_normal, page.module_accepted,
    fun _ _ _ _ hvacant hway hfits => page.module_delivered hvacant hway hfits⟩
  · intro other hother
    rw [Page.componentName_of_isIdentifier (hother ▸ hname), hother]
  · rintro other htouched ⟨c, hc, hpart⟩
    exact Page.componentName_of_touched hc hpart htouched

def missingPage : Page :=
  { name := "404 page!", title := "Not here" }

theorem missingPage_named :
    Page.componentName { name := "4-04page" } = "Page404page" ∧
      Page.componentName { name := "Page404page" } = "Page404page" ∧
      (deliver ["work"] "out/site" [(missingPage.file .react, "text")] workDisk).1 = .ok 1 := by
  have hpage : missingPage.componentName = "Page404page" := by decide
  have htouched : Relation.ReflTransGen Touched "404 page!" "4-04page" := by
    refine .tail (.tail (.tail .refl (.remove "404" "page!" (c := ' ') ?_))
      (.remove "404page" "" (c := '!') ?_)) (.insert "4" "04page" (c := '-') ?_)
    · decide
    · decide
    · decide
  obtain ⟨-, hkept, hpadded, -, -, -, hdelivered⟩ := module_name_exact missingPage
  rw [hpage] at hkept hpadded
  refine ⟨hpadded _ htouched ⟨'p', by decide, by decide⟩, hkept _ rfl, ?_⟩
  exact hdelivered _ _ _ _ workDisk_isVacant (List.forall_mem_singleton.mpr (by decide)) (by decide)

end StaticSite
