import StaticSite.Css.Stylesheet

/-!
# Names of properties

A property has the name of its style with dashes and small letters instead of capitals. No other
character of ASCII comes in: the lower case of a character is a small letter, lies outside ASCII,
or is the character itself.
-/

namespace StaticSite

namespace Text

theorem toNat_toLower {c : Char} (hlow : 'A' ≤ c) (hhigh : c ≤ 'Z') :
    c.toLower.toNat = c.toNat + 32 := by
  have hsmall : c.val.toNat ≤ 90 := hhigh
  have hgap : ('a'.val - 'A'.val).toNat = 32 := rfl
  unfold Char.toLower
  rw [dif_pos ⟨hlow, hhigh⟩, Char.toNat_mk, UInt32.toNat_add, hgap, Nat.mod_eq_of_lt (by omega),
    Char.toNat_val]

theorem toLower_isSmall {c : Char} (hlow : 'A' ≤ c) (hhigh : c ≤ 'Z') :
    'a' ≤ c.toLower ∧ c.toLower ≤ 'z' := by
  have hlower := toNat_toLower hlow hhigh
  have hlow : 65 ≤ c.toNat := hlow
  have hhigh : c.toNat ≤ 90 := hhigh
  constructor
  · show 97 ≤ c.toLower.toNat
    omega
  · show c.toLower.toNat ≤ 122
    omega

theorem toLower_eq_or (c : Char) : c.toLower = c ∨ 'a' ≤ c.toLower ∧ c.toLower ≤ 'z' := by
  by_cases hcapital : 'A' ≤ c ∧ c ≤ 'Z'
  · exact .inr (toLower_isSmall hcapital.1 hcapital.2)
  · exact .inl (dif_neg hcapital)

/-- Only the Kelvin sign is lowered to a character of ASCII from outside. -/
theorem caseRuns_shifted : ∀ run ∈ caseRuns,
    (0x80 ≤ run.first + run.shift ∧ run.last + run.shift < 0xd800 ∨
      0xe000 ≤ run.first + run.shift ∧ run.last + run.shift < 0x110000) ∨
    run.first = 0x212a ∧ run.last = 0x212a ∧ run.shift = -8383 := by
  decide +kernel

theorem CaseRun.toNat_shifted {run : CaseRun} (hrun : run ∈ caseRuns) {n : Nat}
    (hcovers : run.covers n = true) :
    Char.ofNat (n + run.shift).toNat = 'k' ∨ 0x80 ≤ (Char.ofNat (n + run.shift).toNat).toNat := by
  simp only [CaseRun.covers, Bool.and_eq_true, decide_eq_true_eq] at hcovers
  rcases caseRuns_shifted run hrun with hshifted | ⟨hfirst, hlast, hshift⟩
  · have hvalid : (n + run.shift).toNat.isValidChar := by
      unfold Nat.isValidChar
      omega
    have hcode : (Char.ofNat (n + run.shift).toNat).toNat = (n + run.shift).toNat := by
      rw [Char.ofNat, dif_pos hvalid]
      rfl
    omega
  · have hn : n = 0x212a := by omega
    rw [hn, hshift]
    exact .inl rfl

theorem mem_lowerChar {c d : Char} (h : c ∈ lowerChar d) :
    c = d ∨ 'a' ≤ c ∧ c ≤ 'z' ∨ 0x80 ≤ c.toNat := by
  unfold lowerChar at h
  split at h
  · rw [List.mem_singleton.mp h]
    exact (toLower_eq_or d).imp_right .inl
  split at h
  · rcases List.mem_cons.mp h with rfl | hdot
    · exact .inr (.inl (by decide))
    · rw [List.mem_singleton.mp hdot]
      exact .inr (.inr (by decide))
  split at h
  · next run hrun =>
    have hcovers : run.covers d.toNat = true := by
      simpa using List.find?_some hrun
    rw [List.mem_singleton.mp h]
    right
    rcases CaseRun.toNat_shifted (List.mem_of_find?_eq_some hrun) hcovers with hkelvin | hforeign
    · rw [hkelvin]
      exact .inl (by decide)
    · exact .inr hforeign
  · exact .inl (List.mem_singleton.mp h)

end Text

theorem mem_kebabCase {name : String} {c : Char} (h : c ∈ (kebabCase name).toList) :
    c ∈ name.toList ∨ c = '-' ∨ 'a' ≤ c ∧ c ≤ 'z' ∨ 0x80 ≤ c.toNat := by
  rw [kebabCase, String.toList_ofList, List.mem_flatMap] at h
  obtain ⟨d, hd, hc⟩ := h
  have hlower (hc : c ∈ Text.lowerChar d) :
      c ∈ name.toList ∨ c = '-' ∨ 'a' ≤ c ∧ c ≤ 'z' ∨ 0x80 ≤ c.toNat := by
    rcases Text.mem_lowerChar hc with rfl | hother
    · exact .inl hd
    · exact .inr (.inr hother)
  unfold kebabChar at hc
  split at hc
  · rcases List.mem_cons.mp hc with hdash | hc
    · exact .inr (.inl hdash)
    · exact hlower hc
  · exact hlower hc

end StaticSite
