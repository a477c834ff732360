import Mathlib.Data.List.TakeWhile
import StaticSite.Decimal.Reader

/-!
# The characters of numbers

Numbers are written with letters, digits, signs and a point. No text with another character reads
as a number.
-/

namespace StaticSite.Decimal

def isNumeralChar (c : Char) : Bool :=
  c.isAlphanum || c == '+' || c == '-' || c == '.'

def IsNumeral (s : String) : Prop :=
  ∀ c ∈ s.toList, isNumeralChar c = true

instance (s : String) : Decidable (IsNumeral s) :=
  decidable_of_iff (s.toList.all isNumeralChar = true) List.all_eq_true

theorem isNumeral_append {a b : String} :
    IsNumeral (a ++ b) ↔ IsNumeral a ∧ IsNumeral b := by
  simp [IsNumeral, or_imp, forall_and]

theorem isNumeral_ofList {cs : List Char} :
    IsNumeral (String.ofList cs) ↔ ∀ c ∈ cs, isNumeralChar c = true := by
  simp [IsNumeral]

theorem isNumeralChar_of_isDigit {c : Char} (hc : c.isDigit = true) : isNumeralChar c = true := by
  simp [isNumeralChar, Char.isAlphanum, hc]

/-! ## What is written -/

theorem isNumeral_nat (n : Nat) : IsNumeral (toString n) := by
  rw [Nat.toString_eq_repr, Nat.repr_eq_ofList_toDigits, isNumeral_ofList]
  intro c hc
  exact isNumeralChar_of_isDigit (Nat.isDigit_of_mem_toDigits (by decide) (by decide) hc)

theorem isNumeral_int (n : Int) : IsNumeral (toString n) := by
  cases n with
  | ofNat n => exact isNumeral_nat n
  | negSucc n => exact isNumeral_append.mpr ⟨by decide, isNumeral_nat (n + 1)⟩

theorem isNumeral_zeros (n : Nat) : IsNumeral (zeros n) := by
  rw [zeros, isNumeral_ofList]
  intro c hc
  rw [List.eq_of_mem_replicate hc]
  decide

theorem Scaled.isNumeral_places {d : Scaled} {whole fraction : String}
    (hplaces : d.places = (whole, fraction)) : IsNumeral whole ∧ IsNumeral fraction := by
  have hdigits := isNumeral_nat d.digits
  have hempty : IsNumeral "" := by decide
  have hzero : IsNumeral "0" := by decide
  unfold Scaled.places at hplaces
  simp only at hplaces
  split at hplaces
  · cases hplaces
    exact ⟨isNumeral_append.mpr ⟨hdigits, isNumeral_zeros _⟩, hempty⟩
  split at hplaces
  · cases hplaces
    rw [isNumeral_ofList, isNumeral_ofList]
    exact ⟨fun c hc => hdigits c (List.mem_of_mem_take hc),
      fun c hc => hdigits c (List.mem_of_mem_drop hc)⟩
  · cases hplaces
    exact ⟨hzero, isNumeral_append.mpr ⟨isNumeral_zeros _, hdigits⟩⟩

theorem isNumeral_signed (x : Float) {text : String} (htext : IsNumeral text) :
    IsNumeral (signed x text) := by
  unfold signed
  split
  · exact isNumeral_append.mpr ⟨by decide, htext⟩
  · exact htext

theorem isNumeral_plain (x : Float) : IsNumeral (plain x) := by
  have hnan : IsNumeral "NaN" := by decide
  have hinf : IsNumeral "inf" := by decide
  have hzero : IsNumeral "0" := by decide
  unfold plain
  cases hplaces : ((magnitude x).shortest .up).places with
  | mk whole fraction =>
      obtain ⟨hwhole, hfraction⟩ := Scaled.isNumeral_places hplaces
      have hpointed : IsNumeral (if fraction.isEmpty then whole else whole ++ "." ++ fraction) := by
        split
        · exact hwhole
        · exact isNumeral_append.mpr ⟨isNumeral_append.mpr ⟨hwhole, by decide⟩, hfraction⟩
      simp only
      split
      · exact hnan
      split
      · exact isNumeral_signed x hinf
      split
      · exact isNumeral_signed x hzero
      · exact isNumeral_signed x hpointed

/-! ## What is read -/

theorem isNumeralChar_of_toLower {c : Char} (hc : isNumeralChar c.toLower = true) :
    isNumeralChar c = true := by
  unfold Char.toLower at hc
  split at hc
  · next hcapital =>
      have hupper : c.isUpper = true :=
        decide_eq_true hcapital
      have halpha : c.isAlpha = true := Bool.or_eq_true_iff.mpr (.inl hupper)
      simp [isNumeralChar, Char.isAlphanum, halpha]
  · exact hc

theorem isNumeralChar_or_mem_takeSign {c : Char} {cs : List Char} (hc : c ∈ cs) :
    isNumeralChar c = true ∨ c ∈ (takeSign cs).2 := by
  unfold takeSign
  split
  · exact (List.mem_cons.mp hc).imp (by rintro rfl; decide) id
  · exact (List.mem_cons.mp hc).imp (by rintro rfl; decide) id
  · exact .inr hc

theorem isNumeralChar_of_exponent? {cs : List Char} {e : Int} (h : exponent? cs = some e) :
    ∀ c ∈ cs, isNumeralChar c = true := by
  intro c hc
  rcases isNumeralChar_or_mem_takeSign hc with hsign | hdigit
  · exact hsign
  unfold exponent? at h
  simp only [Option.ite_none_left_eq_some, Bool.or_eq_true, Bool.not_eq_true', not_or,
    Bool.not_eq_false, List.all_eq_true] at h
  exact isNumeralChar_of_isDigit (h.1.2 c hdigit)

/-- What may follow the digits of a number. -/
theorem isNumeralChar_of_rest {rest : List Char} {unscaled : Float} {value : Int → Float} {x : Float}
    (h : (match rest with
      | [] => some unscaled
      | mark :: tail => if mark.toLower = 'e' then (exponent? tail).map value else none) =
        some x) : ∀ c ∈ rest, isNumeralChar c = true := by
  cases rest with
  | nil => simp
  | cons mark tail =>
      simp only [Option.ite_none_right_eq_some, Option.map_eq_some_iff] at h
      obtain ⟨hmark, e, he, _⟩ := h
      intro c hc
      rcases List.mem_cons.mp hc with rfl | htail
      · exact isNumeralChar_of_toLower (by rw [hmark]; decide)
      · exact isNumeralChar_of_exponent? he c htail

theorem isNumeralChar_of_digits {cs : List Char}
    (h : ∀ c ∈ cs.dropWhile Char.isDigit, isNumeralChar c = true) :
    ∀ c ∈ cs, isNumeralChar c = true := by
  intro c hc
  rw [← List.takeWhile_append_dropWhile (p := Char.isDigit) (l := cs), List.mem_append] at hc
  rcases hc with hdigit | hrest
  · exact isNumeralChar_of_isDigit (List.mem_takeWhile_imp hdigit)
  · exact h c hrest

theorem isNumeralChar_of_unsigned? {negative : Bool} {cs : List Char} {x : Float}
    (h : unsigned? negative cs = some x) : ∀ c ∈ cs, isNumeralChar c = true := by
  apply isNumeralChar_of_digits
  unfold unsigned? at h
  simp only at h
  split at h
  · next tail hpoint =>
      rw [hpoint]
      simp only [Option.ite_none_left_eq_some] at h
      intro c hc
      rcases List.mem_cons.mp hc with rfl | hc
      · decide
      · exact isNumeralChar_of_digits (isNumeralChar_of_rest h.2) c hc
  · simp only [Option.ite_none_left_eq_some] at h
    exact isNumeralChar_of_rest h.2

theorem isNumeral_of_float? {s : String} {x : Float} (h : float? s = some x) : IsNumeral s := by
  intro c hc
  rcases isNumeralChar_or_mem_takeSign hc with hsign | hbody
  · exact hsign
  have hword (word : String) (hword : IsNumeral word)
      (hread : String.ofList ((takeSign s.toList).2.map Char.toLower) = word) :
      isNumeralChar c = true := by
    apply isNumeralChar_of_toLower
    apply hword
    rw [← hread, String.toList_ofList]
    exact List.mem_map_of_mem hbody
  unfold float? at h
  simp only at h
  split at h
  · next hread => exact hword "inf" (by decide) hread
  · next hread => exact hword "infinity" (by decide) hread
  · next hread => exact hword "nan" (by decide) hread
  · exact isNumeralChar_of_unsigned? h c hbody

end StaticSite.Decimal
