import Mathlib.Tactic.SplitIfs
import Mathlib.Tactic.Tauto
import StaticSite.Proofs.Component.Indexing
import StaticSite.Proofs.Text.Ascii
import StaticSite.Site.Validation

/-!
# What validation reports

A page is sound when its path is a route and the ids in its whole tree are distinct. `Page.Fault`
names what is wrong with any other page, and only one thing ever is: the checks of the path come
in front of those of the tree, each for pages that pass the ones before. A project reports the
problem of its name and, page by page, the fault of every page that is not sound.
-/

namespace StaticSite

open Text

/-! ## Routes and pages -/

/-- Letters and digits of ASCII, slashes, underscores and dashes. -/
def IsRouteCharacter (c : Char) : Prop :=
  'a' ≤ c ∧ c ≤ 'z' ∨ 'A' ≤ c ∧ c ≤ 'Z' ∨ '0' ≤ c ∧ c ≤ '9' ∨ c = '/' ∨ c = '_' ∨ c = '-'

structure IsRoute (path : String) : Prop where
  begins : ∃ rest, path.toList = '/' :: rest
  characters : ∀ c ∈ path.toList, IsRouteCharacter c

structure Page.IsSound (page : Page) : Prop where
  route : IsRoute page.path
  distinct : page.components.ids.Nodup

/-- What is wrong with the path of a page. -/
inductive PathFault (path : String) : Problem → Prop
  | empty (hblank : ∀ c ∈ path.toList, isBlank c = true) : PathFault path .pathEmpty
  | relative (hink : ∃ c ∈ path.toList, isBlank c = false)
      (hbegins : ∀ rest, path.toList ≠ '/' :: rest) : PathFault path (.pathRelative path)
  | characters (hbegins : ∃ rest, path.toList = '/' :: rest)
      (hforeign : ∃ c ∈ path.toList, ¬IsRouteCharacter c) : PathFault path (.pathCharacters path)

/-- What is wrong with a page. It is named by its id, or by its path when it has none. -/
inductive Page.Fault (page : Page) : Problem → Prop
  | path {problem : Problem} (hpath : PathFault page.path problem) : Fault page problem
  | tree {id : String} (hroute : IsRoute page.path)
      (hrepeat : FirstRepeat page.components.ids id) :
      Fault page (.tree (if page.id = "" then page.path else page.id) (.duplicateId id))

/-- One problem for each page that is not sound, in the order of the pages. -/
inductive Reports : List Page → List Problem → Prop
  | nil : Reports [] []
  | sound {page : Page} {pages : List Page} {problems : List Problem} (hsound : page.IsSound)
      (hrest : Reports pages problems) : Reports (page :: pages) problems
  | fault {page : Page} {pages : List Page} {problem : Problem} {problems : List Problem}
      (hfault : page.Fault problem) (hrest : Reports pages problems) :
      Reports (page :: pages) (problem :: problems)

/-! ## Checking a path -/

theorem isPathCharacter_iff {c : Char} : isPathCharacter c = true ↔ IsRouteCharacter c := by
  rw [isPathCharacter, isWordCharacter, IsRouteCharacter]
  simp only [Bool.or_eq_true, decide_eq_true_iff, isAlphanum_iff]
  tauto

theorem all_isPathCharacter_iff {path : String} :
    path.toList.all isPathCharacter = true ↔ ∀ c ∈ path.toList, IsRouteCharacter c := by
  simp only [List.all_eq_true, isPathCharacter_iff]

theorem not_isBlankText {path : String} (h : ∃ c ∈ path.toList, isBlank c = false) :
    ¬isBlankText path = true := by
  obtain ⟨c, hc, hink⟩ := h
  intro hblank
  cases hink.symm.trans (List.all_eq_true.mp hblank c hc)

theorem ink_of_begins {path : String} (h : ∃ rest, path.toList = '/' :: rest) :
    ∃ c ∈ path.toList, isBlank c = false := by
  obtain ⟨rest, hpath⟩ := h
  rw [hpath]
  exact ⟨'/', List.mem_cons_self, by decide⟩

theorem IsRoute.check {path : String} (h : IsRoute path) : checkPath path = .ok () := by
  have hbegins := List.head?_eq_some_iff.mpr h.begins
  rw [checkPath, if_neg (not_isBlankText (ink_of_begins h.begins)),
    if_neg (not_not.mpr hbegins), if_pos (all_isPathCharacter_iff.mpr h.characters)]

theorem PathFault.check {path : String} {problem : Problem} (h : PathFault path problem) :
    checkPath path = .error problem := by
  cases h with
  | empty hblank =>
      have htext : isBlankText path = true := List.all_eq_true.mpr hblank
      rw [checkPath, if_pos htext]
  | relative hink hbegins =>
      have hrelative : path.toList.head? ≠ some '/' := by
        intro hhead
        obtain ⟨rest, hpath⟩ := List.head?_eq_some_iff.mp hhead
        exact hbegins rest hpath
      rw [checkPath, if_neg (not_isBlankText hink), if_pos hrelative]
  | characters hbegins hforeign =>
      -- A path with a slash in front is not blank.
      have hhead := List.head?_eq_some_iff.mpr hbegins
      have hchars : ¬path.toList.all isPathCharacter = true := by
        obtain ⟨c, hc, hforeign⟩ := hforeign
        exact fun hall => hforeign (all_isPathCharacter_iff.mp hall c hc)
      rw [checkPath, if_neg (not_isBlankText (ink_of_begins hbegins)),
        if_neg (not_not.mpr hhead), if_neg hchars]

theorem isRoute_or_fault (path : String) : IsRoute path ∨ ∃ problem, PathFault path problem := by
  by_cases hbegins : ∃ rest, path.toList = '/' :: rest
  · by_cases hchars : ∀ c ∈ path.toList, IsRouteCharacter c
    · exact .inl ⟨hbegins, hchars⟩
    · push Not at hchars
      exact .inr ⟨_, .characters hbegins hchars⟩
  · right
    by_cases hblank : ∀ c ∈ path.toList, isBlank c = true
    · exact ⟨_, .empty hblank⟩
    · push Not at hblank hbegins
      refine ⟨_, .relative ?_ hbegins⟩
      simpa using hblank

/-! ## Checking a page -/

theorem Page.IsSound.check {page : Page} (h : page.IsSound) : checkPage page = .ok () := by
  obtain ⟨index, hindex⟩ := Index.ofForest_isOk_iff.mpr h.distinct
  rw [checkPage, h.route.check, hindex]
  rfl

theorem Page.Fault.check {page : Page} {problem : Problem} (h : page.Fault problem) :
    checkPage page = .error problem := by
  cases h with
  | path hpath =>
      rw [checkPage, hpath.check]
      rfl
  | tree hroute hrepeat =>
      have hindex := hrepeat.ofForest
      rw [checkPage, hroute.check, hindex]
      simp [Page.label, bind, Except.bind]

theorem Page.isSound_or_fault (page : Page) : page.IsSound ∨ ∃ problem, page.Fault problem := by
  rcases isRoute_or_fault page.path with hroute | ⟨problem, hpath⟩
  · rcases Index.ofForest_cases page.components with ⟨_, _, _, _, hdistinct⟩ | ⟨id, _, hrepeat⟩
    · exact .inl ⟨hroute, hdistinct⟩
    · exact .inr ⟨_, .tree hroute hrepeat⟩
  · exact .inr ⟨problem, .path hpath⟩

/-! ## Checking a project -/

theorem reports_iff {pages : List Page} {problems : List Problem} :
    Reports pages problems ↔ problems = pages.flatMap fun page => problemOf (checkPage page) := by
  constructor
  · intro h
    induction h with
    | nil => rfl
    | sound hsound _ ih => rw [List.flatMap_cons, hsound.check, ← ih, problemOf, List.nil_append]
    | fault hfault _ ih =>
        rw [List.flatMap_cons, hfault.check, ← ih, problemOf, List.singleton_append]
  · rintro rfl
    induction pages with
    | nil => exact .nil
    | cons page pages ih =>
        rcases page.isSound_or_fault with hsound | ⟨problem, hfault⟩
        · rw [List.flatMap_cons, hsound.check]
          exact .sound hsound ih
        · rw [List.flatMap_cons, hfault.check]
          exact .fault hfault ih

theorem reports_nil_iff {pages : List Page} : Reports pages [] ↔ ∀ page ∈ pages, page.IsSound := by
  induction pages with
  | nil => simp [Reports.nil]
  | cons page pages ih =>
      rw [List.forall_mem_cons, ← ih]
      constructor
      · rintro (_ | ⟨hsound, hrest⟩)
        exact ⟨hsound, hrest⟩
      · exact fun h => .sound h.1 h.2

theorem problemOf_eq_nil_iff {check : Except Problem Unit} :
    problemOf check = [] ↔ check = .ok () := by
  cases check with
  | ok => simp [problemOf]
  | error problem => simp [problemOf]

theorem Project.problems_eq_nil_iff {project : Project} : project.problems = [] ↔
    checkName project.name = .ok () ∧ ∀ page ∈ project.pages, page.IsSound := by
  rw [Project.problems, List.append_eq_nil_iff, problemOf_eq_nil_iff, ← reports_nil_iff,
    reports_iff, eq_comm (a := [])]

/-- A project reports the problem of its name, if there is one, and then one problem for each page
that is not sound, so it reports nothing just when its name passes and all its pages are sound. -/
theorem problems_exact (project : Project) :
    (project.problems = [] ↔
      checkName project.name = .ok () ∧ ∀ page ∈ project.pages, page.IsSound) ∧
    ∀ problems, project.problems = problems ↔ ∃ reported, Reports project.pages reported ∧
      (checkName project.name = .ok () ∧ problems = reported ∨
        ∃ problem, checkName project.name = .error problem ∧ problems = problem :: reported) := by
  refine ⟨Project.problems_eq_nil_iff, fun problems => ?_⟩
  simp only [reports_iff, exists_eq_left, Project.problems]
  cases hname : checkName project.name with
  | ok => simp [problemOf, eq_comm]
  | error problem => simp [problemOf, eq_comm]

end StaticSite
