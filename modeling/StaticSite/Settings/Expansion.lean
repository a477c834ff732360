import StaticSite.Text.Letter

/-!
# References to the environment

A text of the settings may refer to variables of the environment, with a default where
there may be none. It is cut into pieces first, and the pieces are replaced after that, so
what comes out of the environment is never looked into again.
-/

namespace StaticSite.Settings

/-- Variables with their values. -/
abbrev Environment := List (String × String)

inductive Piece
  | char (c : Char)
  | reference (name : List Char) (default : Option (List Char))
  deriving DecidableEq

def isNameCharacter (c : Char) : Bool :=
  Text.isAlphanumeric c || c = '_'

/-- A name, and the default behind the first `:-`. -/
def splitDefault : List Char → List Char × Option (List Char)
  | [] => ([], none)
  | ':' :: '-' :: rest => ([], some rest)
  | c :: rest => ((c :: (splitDefault rest).1), (splitDefault rest).2)

/-- The reference between two braces. Without a name there is no default either. -/
def braced (inside : List Char) : Piece :=
  match splitDefault inside with
  | ([], _) => .reference inside none
  | (name, default) => .reference name default

/-- What stands in front of the first closing brace, and what behind it. -/
def splitClosing? : List Char → Option (List Char × List Char)
  | [] => none
  | '\x7d' :: rest => some ([], rest)
  | c :: rest => (splitClosing? rest).map fun (inside, after) => (c :: inside, after)

theorem length_lt_of_splitClosing? {cs inside after : List Char}
    (hcs : splitClosing? cs = some (inside, after)) : after.length < cs.length := by
  fun_induction splitClosing? cs generalizing inside with
  | case1 => simp at hcs
  | case2 rest => simp_all
  | case3 c rest _ ih =>
    obtain ⟨⟨front, back⟩, hrest, hpair⟩ := Option.map_eq_some_iff.1 hcs
    simp only [Prod.mk.injEq] at hpair
    have := ih (hpair.2 ▸ hrest)
    simp only [List.length_cons]
    omega

/-- Cuts a text into pieces. A doubled dollar sign stands for one, and a dollar sign that
nothing fits behind stands for itself. -/
def pieces : List Char → List Piece
  | [] => []
  | '$' :: '$' :: rest => .char '$' :: pieces rest
  | '$' :: '\x7b' :: rest =>
    match h : splitClosing? rest with
    | none => .char '$' :: .char '\x7b' :: pieces rest
    | some (inside, after) =>
      have := length_lt_of_splitClosing? h
      braced inside :: pieces after
  | '$' :: rest =>
    have := (List.dropWhile_suffix (l := rest) isNameCharacter).length_le
    if (rest.takeWhile isNameCharacter).isEmpty then .char '$' :: pieces rest
    else .reference (rest.takeWhile isNameCharacter) none :: pieces (rest.dropWhile isNameCharacter)
  | c :: rest => .char c :: pieces rest
termination_by cs => cs.length
decreasing_by all_goals (simp only [List.length_cons]; omega)

/-- The value of a piece, or the name of a variable that has none. -/
def Piece.value (environment : Environment) : Piece → Except String (List Char)
  | .char c => .ok [c]
  | .reference name default =>
    match environment.lookup (String.ofList name), default with
    | some value, _ => .ok value.toList
    | none, some value => .ok value
    | none, none => .error (String.ofList name)

/-- References count only in a text with a brace behind a dollar sign. -/
def hasReferences : List Char → Bool
  | [] => false
  | '$' :: '\x7b' :: _ => true
  | _ :: rest => hasReferences rest

/-- Replaces the references of a text. The first variable without a value and without a
default is told. -/
def expand (environment : Environment) (text : String) : Except String String :=
  if hasReferences text.toList then do
    let values ← (pieces text.toList).mapM (·.value environment)
    return String.ofList values.flatten
  else .ok text

end StaticSite.Settings
