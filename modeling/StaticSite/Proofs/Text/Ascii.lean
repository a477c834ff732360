import Mathlib.Tactic.Tauto
import StaticSite.Text.Blank

/-!
# Characters of ASCII

Names, routes and tags hold characters from a few ranges of code points, none of which are blank.
-/

namespace StaticSite.Text

theorem isAlphanum_iff {c : Char} : c.isAlphanum = true ↔
    'a' ≤ c ∧ c ≤ 'z' ∨ 'A' ≤ c ∧ c ≤ 'Z' ∨ '0' ≤ c ∧ c ≤ '9' := by
  have hletter : c.isAlpha = (c.isUpper || c.isLower) := rfl
  have hupper : c.isUpper = decide ('A' ≤ c ∧ c ≤ 'Z') := rfl
  have hlower : c.isLower = (decide ('a' ≤ c) && decide (c ≤ 'z')) := rfl
  have hdigit : c.isDigit = (decide ('0' ≤ c) && decide (c ≤ '9')) := rfl
  rw [Char.isAlphanum, hletter, hupper, hlower, hdigit]
  simp only [Bool.or_eq_true, Bool.and_eq_true, decide_eq_true_iff]
  tauto

theorem isBlank_of_graphic {c : Char} (hlow : '!' ≤ c) (hhigh : c ≤ '~') : isBlank c = false := by
  have hlow : 33 ≤ c.toNat := hlow
  have hhigh : c.toNat ≤ 126 := hhigh
  have hranges : ∀ range ∈ whiteSpace, range.2 < 33 ∨ 126 < range.1 := by decide
  rw [isBlank, CodePoints.contains, List.any_eq_false]
  intro range hrange
  rw [Bool.and_eq_true, decide_eq_true_iff, decide_eq_true_iff]
  have hout := hranges range hrange
  omega

theorem isBlank_of_isAlphanum {c : Char} (h : c.isAlphanum = true) : isBlank c = false := by
  rcases isAlphanum_iff.mp h with ⟨hlow, hhigh⟩ | ⟨hlow, hhigh⟩ | ⟨hlow, hhigh⟩
  all_goals
    exact isBlank_of_graphic (Char.le_trans (by decide) hlow) (Char.le_trans hhigh (by decide))

end StaticSite.Text
