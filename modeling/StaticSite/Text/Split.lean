/-!
# Splitting

A text cut at every character of a class. `splitWhere` keeps empty pieces, so joining
the pieces again with the characters cut out loses nothing.
-/

namespace StaticSite.Text

/-- The pieces between the characters for which `cuts` holds, empty pieces included. -/
def splitWhere (cuts : Char → Bool) : List Char → List (List Char)
  | [] => [[]]
  | c :: rest =>
    match cuts c, splitWhere cuts rest with
    | true, pieces => [] :: pieces
    | false, [] => [[c]]
    | false, piece :: pieces => (c :: piece) :: pieces

theorem splitWhere_ne_nil (cuts : Char → Bool) (cs : List Char) : splitWhere cuts cs ≠ [] := by
  cases cs with
  | nil => simp [splitWhere]
  | cons c rest =>
    unfold splitWhere
    split <;> simp

end StaticSite.Text
