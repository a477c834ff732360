import Mathlib.Tactic.Push
import StaticSite.Proofs.Site.Validating

/-!
# Names of projects

A name has ink, three to fifty characters, and no characters but those of a class. The message of
the last check lists letters, digits, spaces, dashes and underscores, but the check takes every
blank character for a space. So names with tabs or line breaks pass, and all others are judged as
the message says.
-/

namespace StaticSite

open Text

/-- What the message lists: letters and digits of ASCII, spaces, dashes and underscores. -/
def IsListedCharacter (c : Char) : Prop :=
  'a' ≤ c ∧ c ≤ 'z' ∨ 'A' ≤ c ∧ c ≤ 'Z' ∨ '0' ≤ c ∧ c ≤ '9' ∨ c = ' ' ∨ c = '-' ∨ c = '_'

structure IsName (Allowed : Char → Prop) (name : String) : Prop where
  ink : ∃ c ∈ name.toList, isBlank c = false
  long : 3 ≤ name.length
  short : name.length ≤ 50
  characters : ∀ c ∈ name.toList, Allowed c

/-- What is wrong with a name. Each fault is told of names that have none of those before it. -/
inductive NameFault (name : String) : Problem → Prop
  | empty (hblank : ∀ c ∈ name.toList, isBlank c = true) : NameFault name .nameEmpty
  | length (hink : ∃ c ∈ name.toList, isBlank c = false)
      (hlength : name.length < 3 ∨ 50 < name.length) : NameFault name .nameLength
  | characters (hink : ∃ c ∈ name.toList, isBlank c = false) (hlong : 3 ≤ name.length)
      (hshort : name.length ≤ 50)
      (hforeign : ∃ c ∈ name.toList, ¬IsListedCharacter c ∧ isBlank c = false) :
      NameFault name .nameCharacters

/-! ## Characters of names -/

theorem isNameCharacter_iff {c : Char} :
    isNameCharacter c = true ↔ IsListedCharacter c ∨ isBlank c = true := by
  have hspace : c = ' ' → isBlank c = true := by
    rintro rfl
    decide
  rw [isNameCharacter, isWordCharacter, IsListedCharacter]
  simp only [Bool.or_eq_true, decide_eq_true_iff, isAlphanum_iff]
  tauto

theorem all_isNameCharacter_iff {name : String} : name.toList.all isNameCharacter = true ↔
    ∀ c ∈ name.toList, IsListedCharacter c ∨ isBlank c = true := by
  simp only [List.all_eq_true, isNameCharacter_iff]

/-- The space is the only blank character that the message lists. -/
theorem IsListedCharacter.eq_space {c : Char} (h : IsListedCharacter c)
    (hblank : isBlank c = true) : c = ' ' := by
  have hink (hc : isBlank c = false) : c = ' ' := by
    rw [hc] at hblank
    cases hblank
  rcases h with hrange | hrange | hrange | hspace | rfl | rfl
  · exact hink (isBlank_of_isAlphanum (isAlphanum_iff.mpr (.inl hrange)))
  · exact hink (isBlank_of_isAlphanum (isAlphanum_iff.mpr (.inr (.inl hrange))))
  · exact hink (isBlank_of_isAlphanum (isAlphanum_iff.mpr (.inr (.inr hrange))))
  · exact hspace
  · exact hink (by decide)
  · exact hink (by decide)

theorem isListedCharacter_iff {c : Char} : IsListedCharacter c ↔
    (IsListedCharacter c ∨ isBlank c = true) ∧ (isBlank c = true → c = ' ') := by
  constructor
  · exact fun h => ⟨.inl h, h.eq_space⟩
  · rintro ⟨hlisted | hblank, hspace⟩
    · exact hlisted
    · rw [hspace hblank]
      exact .inr (.inr (.inr (.inl rfl)))

/-! ## Checking a name -/

theorem nameLengths_iff {n : Nat} :
    (n < nameLengths.1 || nameLengths.2 < n) = true ↔ n < 3 ∨ 50 < n := by
  rw [Bool.or_eq_true, decide_eq_true_iff, decide_eq_true_iff]
  rfl

theorem checkName_of_length {name : String} (hink : ∃ c ∈ name.toList, isBlank c = false)
    (hlong : 3 ≤ name.length) (hshort : name.length ≤ 50) : checkName name =
      if name.toList.all isNameCharacter then .ok () else .error .nameCharacters := by
  have hlength : ¬(name.length < 3 ∨ 50 < name.length) := by omega
  rw [checkName, if_neg (not_isBlankText hink), if_neg (mt nameLengths_iff.mp hlength)]

theorem IsName.check {name : String}
    (h : IsName (fun c => IsListedCharacter c ∨ isBlank c = true) name) :
    checkName name = .ok () := by
  rw [checkName_of_length h.ink h.long h.short, if_pos (all_isNameCharacter_iff.mpr h.characters)]

theorem NameFault.check {name : String} {problem : Problem} (h : NameFault name problem) :
    checkName name = .error problem := by
  cases h with
  | empty hblank =>
      have htext : isBlankText name = true := List.all_eq_true.mpr hblank
      rw [checkName, if_pos htext]
  | length hink hlength =>
      rw [checkName, if_neg (not_isBlankText hink), if_pos (nameLengths_iff.mpr hlength)]
  | characters hink hlong hshort hforeign =>
      have hchars : ¬name.toList.all isNameCharacter = true := by
        obtain ⟨c, hc, hlisted, hnotblank⟩ := hforeign
        intro hall
        rcases all_isNameCharacter_iff.mp hall c hc with h | hblank
        · exact hlisted h
        · rw [hnotblank] at hblank
          cases hblank
      rw [checkName_of_length hink hlong hshort, if_neg hchars]

theorem isName_or_fault (name : String) :
    IsName (fun c => IsListedCharacter c ∨ isBlank c = true) name ∨
      ∃ problem, NameFault name problem := by
  by_cases hblank : ∀ c ∈ name.toList, isBlank c = true
  · exact .inr ⟨_, .empty hblank⟩
  have hink : ∃ c ∈ name.toList, isBlank c = false := by
    push Not at hblank
    simpa using hblank
  by_cases hlength : name.length < 3 ∨ 50 < name.length
  · exact .inr ⟨_, .length hink hlength⟩
  have hlong : 3 ≤ name.length := by omega
  have hshort : name.length ≤ 50 := by omega
  by_cases hchars : ∀ c ∈ name.toList, IsListedCharacter c ∨ isBlank c = true
  · exact .inl ⟨hink, hlong, hshort, hchars⟩
  · refine .inr ⟨_, .characters hink hlong hshort ?_⟩
    push Not at hchars
    simpa using hchars

theorem checkName_eq_ok_iff {name : String} : checkName name = .ok () ↔
    IsName (fun c => IsListedCharacter c ∨ isBlank c = true) name := by
  refine ⟨fun hok => ?_, IsName.check⟩
  rcases isName_or_fault name with hname | ⟨problem, hfault⟩
  · exact hname
  · rw [hfault.check] at hok
    cases hok

theorem checkName_eq_error_iff {name : String} {problem : Problem} :
    checkName name = .error problem ↔ NameFault name problem := by
  refine ⟨fun herror => ?_, NameFault.check⟩
  rcases isName_or_fault name with hname | ⟨other, hfault⟩
  · rw [hname.check] at herror
    cases herror
  · rw [hfault.check] at herror
    cases herror
    exact hfault

/-- A name passes exactly if it is not blank, has three to fifty characters, and they are all
listed or blank; the first of these that fails is told. The names that the message admits are
those that pass and have no blank character but the space. -/
theorem checked_name_exact (name : String) :
    (checkName name = .ok () ↔ IsName (fun c => IsListedCharacter c ∨ isBlank c = true) name) ∧
      (∀ problem, checkName name = .error problem ↔ NameFault name problem) ∧
      (IsName IsListedCharacter name ↔
        checkName name = .ok () ∧ ∀ c ∈ name.toList, isBlank c = true → c = ' ') := by
  refine ⟨checkName_eq_ok_iff, fun _ => checkName_eq_error_iff, ?_⟩
  rw [checkName_eq_ok_iff]
  constructor
  · intro h
    exact ⟨⟨h.ink, h.long, h.short, fun c hc => .inl (h.characters c hc)⟩,
      fun c hc => (h.characters c hc).eq_space⟩
  · rintro ⟨h, hspaces⟩
    exact ⟨h.ink, h.long, h.short, fun c hc =>
      isListedCharacter_iff.mpr ⟨h.characters c hc, hspaces c hc⟩⟩

/-- A line break passes for a space, against what the message lists. -/
theorem broken_name_passes :
    checkName "My\nSite" = .ok () ∧ ¬IsName IsListedCharacter "My\nSite" ∧
      Problem.nameCharacters.message =
        "project name may only contain letters, digits, spaces, dashes and underscores" := by
  refine ⟨rfl, fun h => ?_, rfl⟩
  have hbreak : '\n' = ' ' := (h.characters '\n' (by decide)).eq_space (by decide)
  cases hbreak

end StaticSite
