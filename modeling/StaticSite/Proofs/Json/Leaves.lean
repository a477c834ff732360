import StaticSite.Proofs.Json.Preescaping

/-!
# Showing nested arrays

An array is shown as the texts of its leaves with commas between them, at whatever depth they
stand. Null has a text of its own when it is shown alone and none as a leaf, so the induction is on
the items of an array and not on its value. As a comma is kept by escaping, the leaves may be escaped
before they are joined.
-/

namespace StaticSite.Json

open Text

mutual

/-- What an array holds when all arrays in it are opened, from left to right. An array without items
is a leaf, and so is every other value. -/
def Value.leaves : Value → List Value
  | .array [] => [.array []]
  | .array (item :: rest) => item.leaves ++ leavesOfItems rest
  | leaf => [leaf]

def leavesOfItems : List Value → List Value
  | [] => []
  | item :: rest => item.leaves ++ leavesOfItems rest

end

/-- The text of a leaf: there is none for null and for an array without items. -/
def Value.leafText : Value → String
  | .null => ""
  | .array _ => ""
  | .object _ => "[object Object]"
  | leaf => leaf.display

theorem leavesOfItems_eq_flatMap (items : List Value) :
    leavesOfItems items = items.flatMap Value.leaves := by
  induction items with
  | nil => rfl
  | cons item rest ih => rw [leavesOfItems, ih, List.flatMap_cons]

theorem Value.leaves_array {items : List Value} (hitems : items ≠ []) :
    (Value.array items).leaves = items.flatMap Value.leaves := by
  cases items with
  | nil => exact absurd rfl hitems
  | cons item rest => rw [Value.leaves, leavesOfItems_eq_flatMap, List.flatMap_cons]

theorem Value.leaves_ne_nil : (value : Value) → value.leaves ≠ []
  | .array [] => by simp [Value.leaves]
  | .array (item :: rest) => by
      rw [Value.leaves]
      exact List.append_ne_nil_of_left_ne_nil item.leaves_ne_nil _
  | .null | .bool _ | .number _ | .string _ | .object _ => by simp [Value.leaves]

/-- The texts of the leaves, with commas between them. -/
def Value.leavesJoined (value : Value) : String :=
  String.intercalate "," (value.leaves.map Value.leafText)

theorem intercalate_leavesJoined {items : List Value} (hitems : items ≠ []) :
    String.intercalate "," (items.map Value.leavesJoined) = (Value.array items).leavesJoined := by
  have hflat : ∀ items : List Value, String.intercalate "," (items.map Value.leavesJoined) =
      String.intercalate "," ((items.flatMap Value.leaves).map Value.leafText) := by
    intro items
    induction items with
    | nil => rfl
    | cons item rest ih =>
        cases rest with
        | nil => simp [Value.leavesJoined]
        | cons next others =>
            have hfirst : item.leaves.map Value.leafText ≠ [] := by simp [item.leaves_ne_nil]
            have hothers : ((next :: others).flatMap Value.leaves).map Value.leafText ≠ [] := by
              simp [next.leaves_ne_nil]
            rw [List.flatMap_cons, List.map_append,
              String.intercalate_append_of_ne_nil hfirst hothers, ← ih, List.map_cons, List.map_cons,
              String.intercalate_cons_cons]
            rfl
  rw [hflat, Value.leavesJoined, Value.leaves_array hitems]

mutual

theorem Value.display_eq_leavesJoined : (value : Value) → value ≠ .null →
    value.display = value.leavesJoined
  | .null, hvalue => absurd rfl hvalue
  | .array [], _ => rfl
  | .array (item :: rest), _ => by
      rw [Value.display, displayItems_eq_leavesJoined, intercalate_leavesJoined (List.cons_ne_nil _ _)]
  | .bool _, _ | .number _, _ | .string _, _ | .object _, _ => by
      simp [Value.leavesJoined, Value.leaves, Value.leafText, Value.display]

theorem displayItems_eq_leavesJoined : (items : List Value) →
    displayItems items = items.map Value.leavesJoined
  | [] => rfl
  | item :: rest => by
      have hrest := displayItems_eq_leavesJoined rest
      by_cases hitem : item = .null
      · subst hitem
        rw [displayItems, hrest, List.map_cons]
        rfl
      · rw [displayItems_cons_of_ne hitem, item.display_eq_leavesJoined hitem, hrest, List.map_cons]

end

/-- An array is shown as its leaves are, with commas between them, and the characters of HTML may be
escaped in its strings before or in its text behind. -/
theorem array_display_flattened (items : List Value) :
    (Value.array items).display =
        String.intercalate "," ((Value.array items).leaves.map Value.leafText) ∧
      escapeHtml (Value.array items).display = (Value.array items).preescaped.display := by
  have hleaves := (Value.array items).display_eq_leavesJoined nofun
  have hescaped := (Value.array items).display_preescaped
  exact ⟨hleaves, hescaped.symm⟩

/-- Empty arrays and null leave their commas, and one item leaves none. -/
example : (Value.array [.string "a", .array [.array [], .null, .array [.string "<"]],
    .object [("k", .null)]]).display = "a,,,<,[object Object]" := by
  decide

end StaticSite.Json
