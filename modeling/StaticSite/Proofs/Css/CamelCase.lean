import Mathlib.Data.List.Nodup
import StaticSite.Proofs.Css.PropertyNames

/-!
# Names of properties read back

In the name of a property each capital of its style has become a dash and a small letter. Where
a style has no dash of its own, these are the only dashes, so the name of the style can be read
back, and styles with different names have properties with different names. A name of a property
has no capitals left, and is its own.
-/

namespace StaticSite

namespace Text

theorem toNat_toUpper {c : Char} (hlow : 'a' ≤ c) (hhigh : c ≤ 'z') :
    c.toUpper.toNat + 32 = c.toNat := by
  have hlarge : 97 ≤ c.val.toNat := hlow
  have hsmall : c.val.toNat ≤ 122 := hhigh
  have hgap : ('A'.val - 'a'.val).toNat = 4294967264 := rfl
  unfold Char.toUpper
  rw [dif_pos ⟨hlow, hhigh⟩, Char.toNat_mk, UInt32.toNat_add, hgap, ← Char.toNat_val]
  omega

theorem toUpper_toLower {c : Char} (hlow : 'A' ≤ c) (hhigh : c ≤ 'Z') :
    c.toLower.toUpper = c := by
  have hsmall := toLower_isSmall hlow hhigh
  have hupper := toNat_toUpper hsmall.1 hsmall.2
  have hlower := toNat_toLower hlow hhigh
  apply Char.toNat_inj.mp
  omega

def IsAscii (s : String) : Prop :=
  ∀ c ∈ s.toList, c.toNat < 0x80

end Text

open Text

/-- Turns a dash and the small letter behind it into a capital. -/
def camelChars : List Char → List Char
  | '-' :: c :: rest =>
    if 'a' ≤ c ∧ c ≤ 'z' then c.toUpper :: camelChars rest else '-' :: camelChars (c :: rest)
  | c :: rest => c :: camelChars rest
  | [] => []

def camelCase (name : String) : String :=
  String.ofList (camelChars name.toList)

/-! ## One character -/

theorem kebabChar_capital {c : Char} (hlow : 'A' ≤ c) (hhigh : c ≤ 'Z') :
    kebabChar c = ['-', c.toLower] := by
  have hascii : c.toNat < 0x80 := Nat.lt_of_le_of_lt hhigh (by decide)
  simp [kebabChar, lowerChar, hlow, hhigh, hascii]

theorem kebabChar_kept {c : Char} (hascii : c.toNat < 0x80) (hcapital : ¬('A' ≤ c ∧ c ≤ 'Z')) :
    kebabChar c = [c] := by
  have hlower : c.toLower = c := dif_neg hcapital
  simp [kebabChar, lowerChar, hcapital, hascii, hlower]

theorem camelChars_cons_of_ne {c : Char} (hc : c ≠ '-') (rest : List Char) :
    camelChars (c :: rest) = c :: camelChars rest := by
  rw [camelChars]
  intros
  contradiction

theorem camelChars_kebabChar {c : Char} (hascii : c.toNat < 0x80) (hdash : c ≠ '-')
    (rest : List Char) : camelChars (kebabChar c ++ rest) = c :: camelChars rest := by
  by_cases hcapital : 'A' ≤ c ∧ c ≤ 'Z'
  · obtain ⟨hlow, hhigh⟩ := hcapital
    rw [kebabChar_capital hlow hhigh, List.cons_append, List.cons_append, List.nil_append,
      camelChars, if_pos (toLower_isSmall hlow hhigh), toUpper_toLower hlow hhigh]
  · rw [kebabChar_kept hascii hcapital, List.singleton_append, camelChars_cons_of_ne hdash]

/-- Nothing is left to change: there are no capitals in what stands for a character. -/
theorem kebabChar_of_mem {c d : Char} (hascii : c.toNat < 0x80) (hd : d ∈ kebabChar c) :
    kebabChar d = [d] := by
  by_cases hcapital : 'A' ≤ c ∧ c ≤ 'Z'
  · obtain ⟨hlow, hhigh⟩ := hcapital
    rw [kebabChar_capital hlow hhigh, List.mem_cons, List.mem_singleton] at hd
    rcases hd with rfl | rfl
    · rfl
    · obtain ⟨hsmall, hlast⟩ := toLower_isSmall hlow hhigh
      apply kebabChar_kept (Nat.lt_of_le_of_lt hlast (by decide))
      rintro ⟨_, hlate⟩
      exact absurd (Char.le_trans hsmall hlate) (by decide)
  · rw [kebabChar_kept hascii hcapital, List.mem_singleton] at hd
    rw [hd, kebabChar_kept hascii hcapital]

/-! ## Names -/

/-- A name of ASCII characters, none of which is a dash. -/
structure IsUndashed (name : String) : Prop where
  ascii : IsAscii name
  noDash : '-' ∉ name.toList

theorem IsUndashed.camelCase_kebabCase {name : String} (h : IsUndashed name) :
    camelCase (kebabCase name) = name := by
  have hchars : ∀ cs : List Char, (∀ c ∈ cs, c.toNat < 0x80) → '-' ∉ cs →
      camelChars (cs.flatMap kebabChar) = cs := by
    intro cs hascii hdash
    induction cs with
    | nil => rfl
    | cons c rest ih =>
        rw [List.mem_cons, not_or] at hdash
        have hrest := ih (fun d hd => hascii d (List.mem_cons_of_mem c hd)) hdash.2
        rw [List.flatMap_cons,
          camelChars_kebabChar (hascii c List.mem_cons_self) (Ne.symm hdash.1), hrest]
  rw [camelCase, kebabCase, String.toList_ofList, hchars _ h.ascii h.noDash, String.ofList_toList]

theorem IsUndashed.eq_of_kebabCase {a b : String} (ha : IsUndashed a) (hb : IsUndashed b)
    (hsame : kebabCase a = kebabCase b) : a = b := by
  calc
    a = camelCase (kebabCase a) := ha.camelCase_kebabCase.symm
    _ = camelCase (kebabCase b) := by rw [hsame]
    _ = b := hb.camelCase_kebabCase

theorem kebabCase_kebabCase {name : String} (hascii : IsAscii name) :
    kebabCase (kebabCase name) = kebabCase name := by
  have hkept : ∀ d ∈ (kebabCase name).toList, kebabChar d = [d] := by
    intro d hd
    rw [kebabCase, String.toList_ofList] at hd
    obtain ⟨c, hc, hmem⟩ := List.mem_flatMap.mp hd
    exact kebabChar_of_mem (hascii c hc) hmem
  exact escapeWith_of_kept hkept

/-- The styles of a component keep their places, and no two of them meet in one property. -/
theorem Widget.nodup_properties {w : Widget} (hnames : ∀ style ∈ w.styles, IsUndashed style.1)
    (hdistinct : (w.styles.map (·.1)).Nodup) : (w.styleDeclarations.map (·.property)).Nodup := by
  have hproperties : w.styleDeclarations.map (·.property) = (w.styles.map (·.1)).map kebabCase := by
    simp [Widget.styleDeclarations, Function.comp_def]
  rw [hproperties]
  refine List.Nodup.map_on ?_ hdistinct
  intro a ha b hb hsame
  obtain ⟨style, hstyle, rfl⟩ := List.mem_map.mp ha
  obtain ⟨other, hother, rfl⟩ := List.mem_map.mp hb
  exact (hnames style hstyle).eq_of_kebabCase (hnames other hother) hsame

/-- The name of a style without dashes is read back from its property, so styles with different
names have different properties; and the name of a property is kept as it is. -/
theorem kebabCase_faithful :
    (∀ name, IsUndashed name → camelCase (kebabCase name) = name) ∧
      (∀ a b, IsUndashed a → IsUndashed b → a ≠ b → kebabCase a ≠ kebabCase b) ∧
      (∀ w : Widget, (∀ style ∈ w.styles, IsUndashed style.1) → (w.styles.map (·.1)).Nodup →
        (w.styleDeclarations.map (·.property)).Nodup) ∧
      ∀ name, IsAscii name → kebabCase (kebabCase name) = kebabCase name := by
  refine ⟨?_, ?_, ?_, ?_⟩
  · intro name hname
    exact hname.camelCase_kebabCase
  · intro a b ha hb hne hsame
    exact hne (ha.eq_of_kebabCase hb hsame)
  · intro w hnames hdistinct
    exact Widget.nodup_properties hnames hdistinct
  · intro name hascii
    exact kebabCase_kebabCase hascii

/-- Names with a capital in front, several in a row and a digit among them. -/
def vendorText : Widget :=
  { id := "t", kind := .text,
    styles := [("WebkitURL2X", .string "a"), ("webkitURL2X", .string "b")] }

theorem vendorText_faithful :
    camelCase "-webkit-u-r-l2-x" = "WebkitURL2X" ∧
      kebabCase "WebkitURL2X" ≠ kebabCase "webkitURL2X" ∧
      (vendorText.styleDeclarations.map (·.property)).Nodup ∧
      kebabCase (kebabCase "--mainColor") = "--main-color" := by
  obtain ⟨hread, hdifferent, hnodup, hkept⟩ := kebabCase_faithful
  have hvendor : IsUndashed "WebkitURL2X" := ⟨by simp [IsAscii], by simp⟩
  have hplain : IsUndashed "webkitURL2X" := ⟨by simp [IsAscii], by simp⟩
  have hwritten : kebabCase "WebkitURL2X" = "-webkit-u-r-l2-x" := rfl
  have hcustom : kebabCase "--mainColor" = "--main-color" := rfl
  refine ⟨?_, hdifferent _ _ hvendor hplain (by decide), hnodup vendorText ?_ (by decide), ?_⟩
  · rw [← hwritten]
    exact hread _ hvendor
  · simp [vendorText, hvendor, hplain]
  · have hascii : IsAscii "--mainColor" := by
      simp [IsAscii]
    rw [hkept _ hascii]
    exact hcustom

end StaticSite
