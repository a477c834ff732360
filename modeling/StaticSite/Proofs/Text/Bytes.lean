import Mathlib.Tactic.SplitIfs

/-!
# The order of bytes

Texts are ordered by their code points. The bytes that encode them are in the same order: of two
characters the smaller one has the smaller first byte, or the bytes are equally many and spell the
code point in base 64, highest digit first.
-/

namespace StaticSite.Text

def bytes (s : String) : List UInt8 :=
  s.toByteArray.data.toList

theorem bytes_eq_flatMap (s : String) : bytes s = s.toList.flatMap String.utf8EncodeChar := by
  rw [bytes, ← String.ofList_toList (s := s), String.toByteArray_ofList, String.toList_ofList,
    List.utf8Encode, List.toList_data_toByteArray]

theorem utf8EncodeChar_ne_nil (c : Char) : String.utf8EncodeChar c ≠ [] := by
  simp only [String.utf8EncodeChar]
  split_ifs <;> exact List.cons_ne_nil _ _

theorem utf8EncodeChar_lt {c d : Char} (hlt : c < d) (a b : List UInt8) :
    String.utf8EncodeChar c ++ a < String.utf8EncodeChar d ++ b := by
  have hcode : c.val.toNat < d.val.toNat := hlt
  have hbound : d.val.toNat < 1114112 := by
    have hvalid := d.valid
    rw [UInt32.isValidChar, Nat.isValidChar] at hvalid
    omega
  simp only [String.utf8EncodeChar]
  generalize c.val.toNat = m at *
  generalize d.val.toNat = n at *
  -- Each digit as the quotient of the one below it, so that the digits can be compared in turn.
  have hhighest (k : Nat) : k / 262144 = k / 64 / 64 / 64 := by omega
  have hmiddle (k : Nat) : k / 4096 = k / 64 / 64 := by omega
  simp only [hhighest, hmiddle]
  split_ifs <;>
    simp only [List.cons_append, List.nil_append, List.cons_lt_cons_iff, UInt8.lt_iff_toNat_lt,
      ← UInt8.toNat_inj, UInt8.toNat_ofNat'] <;> omega

theorem bytes_lt {s t : String} (hlt : s < t) : bytes s < bytes t := by
  rw [bytes_eq_flatMap, bytes_eq_flatMap]
  rw [String.lt_iff] at hlt
  generalize s.toList = cs at *
  generalize t.toList = ds at *
  induction cs generalizing ds with
  | nil =>
      cases ds with
      | nil => exact absurd hlt (List.not_lt_nil _)
      | cons d rest =>
          obtain ⟨byte, others, hbytes⟩ := List.exists_cons_of_ne_nil (utf8EncodeChar_ne_nil d)
          rw [List.flatMap_nil, List.flatMap_cons, hbytes]
          exact List.nil_lt_cons _ _
  | cons c rest ih =>
      cases ds with
      | nil => exact absurd hlt (List.not_lt_nil _)
      | cons d others =>
          rw [List.flatMap_cons, List.flatMap_cons]
          rcases List.cons_lt_cons_iff.mp hlt with hfirst | ⟨rfl, hrest⟩
          · exact utf8EncodeChar_lt hfirst _ _
          · exact List.append_left_lt (ih _ hrest)

end StaticSite.Text
