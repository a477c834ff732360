import Mathlib.Data.List.Infix
import Mathlib.Data.List.TakeWhile
import Mathlib.Tactic.SplitIfs
import StaticSite.Proofs.Results
import StaticSite.Settings.File

/-!
# References in settings

`Cuts` cuts a text into segments by rules on what stands in it, in two readings: names behind a
dollar sign without braces, and doubled dollar signs, count or they are copied. Expansion follows
the first reading as soon as a brace stands behind a dollar sign anywhere in the text, and copies
a text without. So such names are left alone, as they should be, exactly in texts where the two
readings do not differ.
-/

namespace StaticSite.Settings

/-- A stretch of a text, by what becomes of it. -/
inductive Segment
  /-- A character that is copied. -/
  | char (c : Char)
  /-- Two dollar signs for one. -/
  | doubled
  /-- A name without braces behind a dollar sign. -/
  | bare (name : List Char)
  | braced (name : List Char) (default : Option (List Char))
  deriving DecidableEq

/-- What stands between the braces of a reference. -/
def between (name : List Char) : Option (List Char) → List Char
  | none => name
  | some default => name ++ ':' :: '-' :: default

def Segment.source : Segment → List Char
  | .char c => [c]
  | .doubled => ['$', '$']
  | .bare name => '$' :: name
  | .braced name default => '$' :: '\x7b' :: (between name default ++ ['\x7d'])

/-- Whether braces hold this name and this default: the first `:-` ends the name, but none stands
in front of all else. -/
def Separates (name : List Char) : Option (List Char) → Prop
  | none => [':', '-'] <+: name ∨ ¬[':', '-'] <:+: name
  | some _ => name ≠ [] ∧ ¬[':', '-'] <:+: name

/-- Whether a segment can be cut off in front of a text. A dollar sign is a character only where
nothing that counts begins with it, and a name without braces is as long as possible. -/
def Segment.Fits (bareCounts : Bool) (rest : List Char) : Segment → Prop
  | .char c => c = '$' → (∀ behind, rest = '\x7b' :: behind → '\x7d' ∉ behind) ∧
      (bareCounts = true → ∀ d ∈ rest.head?, d ≠ '$' ∧ isNameCharacter d = false)
  | .doubled => bareCounts = true
  | .bare name => bareCounts = true ∧ name ≠ [] ∧ (∀ c ∈ name, isNameCharacter c = true) ∧
      ∀ d ∈ rest.head?, isNameCharacter d = false
  | .braced name default => '\x7d' ∉ between name default ∧ Separates name default

/-- The segments of a text. -/
inductive Cuts (bareCounts : Bool) : List Char → List Segment → Prop
  | nil : Cuts bareCounts [] []
  | cons {s : Segment} {rest : List Char} {segments : List Segment}
      (hfits : s.Fits bareCounts rest) (hrest : Cuts bareCounts rest segments) :
      Cuts bareCounts (s.source ++ rest) (s :: segments)

/-- What stands in the place of a segment. -/
inductive Segment.HasValue (environment : Environment) : Segment → List Char → Prop
  | char (c : Char) : HasValue environment (.char c) [c]
  | doubled : HasValue environment .doubled ['$']
  | bare {name : List Char} {value : String}
      (hset : environment.lookup (String.ofList name) = some value) :
      HasValue environment (.bare name) value.toList
  | braced {name : List Char} {value : String} (default : Option (List Char))
      (hset : environment.lookup (String.ofList name) = some value) :
      HasValue environment (.braced name default) value.toList
  | default {name default : List Char}
      (hunset : environment.lookup (String.ofList name) = none) :
      HasValue environment (.braced name (some default)) default

/-- A segment is a reference without a default to a variable that is unset. -/
def Segment.Lacks (environment : Environment) (name : String) (s : Segment) : Prop :=
  environment.lookup name = none ∧ (s = .bare name.toList ∨ s = .braced name.toList none)

/-- What a reading makes of a text: all segments have their values, or the first that has none
names its variable. -/
inductive Expansion (bareCounts : Bool) (environment : Environment) (text : String) :
    Except String String → Prop
  | ok {segments : List Segment} {values : List (List Char)}
      (hcuts : Cuts bareCounts text.toList segments)
      (hvalues : List.Forall₂ (Segment.HasValue environment) segments values) :
      Expansion bareCounts environment text (.ok (String.ofList values.flatten))
  | error {before after : List Segment} {s : Segment} {name : String}
      (hcuts : Cuts bareCounts text.toList (before ++ s :: after))
      (hbefore : ∀ t ∈ before, ∃ value, t.HasValue environment value)
      (hlacks : s.Lacks environment name) :
      Expansion bareCounts environment text (.error name)

/-- Both readings copy or replace the same. -/
def Segment.isPlain : Segment → Bool
  | .char _ | .braced _ _ => true
  | .doubled | .bare _ => false

/-- Nothing in the text is a doubled dollar sign or a name without braces. -/
def SparesBare (text : String) : Prop :=
  ∀ segments, Cuts true text.toList segments → segments.all (·.isPlain)

/-! ## Braces -/

theorem splitClosing?_append {inside : List Char} (hinside : '\x7d' ∉ inside)
    (rest : List Char) : splitClosing? (inside ++ '\x7d' :: rest) = some (inside, rest) := by
  induction inside with
  | nil => rfl
  | cons c inside ih =>
      simp only [List.mem_cons, not_or] at hinside
      rw [List.cons_append, splitClosing?, ih hinside.2]
      · rfl
      · exact fun h => hinside.1 h.symm

theorem splitClosing?_eq_none {cs : List Char} (h : '\x7d' ∉ cs) : splitClosing? cs = none := by
  induction cs with
  | nil => rfl
  | cons c cs ih =>
      simp only [List.mem_cons, not_or] at h
      rw [splitClosing?, ih h.2]
      · rfl
      · exact fun hc => h.1 hc.symm

theorem splitClosing?_eq_some {cs inside rest : List Char}
    (h : splitClosing? cs = some (inside, rest)) :
    cs = inside ++ '\x7d' :: rest ∧ '\x7d' ∉ inside := by
  obtain ⟨front, behind, hcs, hfront⟩ : ∃ front behind, cs = front ++ '\x7d' :: behind ∧
      '\x7d' ∉ front := by
    apply List.eq_append_cons_of_mem
    by_contra hnone
    rw [splitClosing?_eq_none hnone] at h
    cases h
  rw [hcs, splitClosing?_append hfront, Option.some.injEq, Prod.mk.injEq] at h
  obtain ⟨rfl, rfl⟩ := h
  exact ⟨hcs, hfront⟩

theorem splitDefault_append {name : List Char} (hname : ¬[':', '-'] <:+: name)
    (default : List Char) : splitDefault (name ++ ':' :: '-' :: default) = (name, some default) := by
  induction name with
  | nil => rfl
  | cons c name ih =>
      have hrest : ¬[':', '-'] <:+: name := fun h => hname (List.infix_cons h)
      rw [List.cons_append, splitDefault, ih hrest]
      rintro behind rfl hbehind
      cases name with
      | nil => cases hbehind
      | cons d name =>
          obtain ⟨rfl, -⟩ := List.cons.inj hbehind
          exact hname ⟨[], name, rfl⟩

theorem splitDefault_of_not_infix {inside : List Char} (h : ¬[':', '-'] <:+: inside) :
    splitDefault inside = (inside, none) := by
  induction inside with
  | nil => rfl
  | cons c inside ih =>
      have hrest : ¬[':', '-'] <:+: inside := fun h' => h (List.infix_cons h')
      rw [splitDefault, ih hrest]
      rintro behind rfl rfl
      exact h ⟨[], behind, rfl⟩

/-- A reference in braces is read as the name and the default that it holds. -/
theorem braced_between {name : List Char} {default : Option (List Char)}
    (h : Separates name default) :
    Settings.braced (between name default) = .reference name default := by
  cases default with
  | none =>
      rcases h with ⟨behind, rfl⟩ | hplain
      · rfl
      · rw [Settings.braced, between, splitDefault_of_not_infix hplain]
        cases name <;> rfl
  | some default =>
      rw [Settings.braced, between, splitDefault_append h.2]
      cases name with
      | nil => exact absurd rfl h.1
      | cons c name => rfl

theorem exists_first_separator {cs : List Char} (h : [':', '-'] <:+: cs) :
    ∃ name default, cs = name ++ ':' :: '-' :: default ∧ ¬[':', '-'] <:+: name := by
  induction cs with
  | nil => simp at h
  | cons c cs ih =>
      by_cases hfirst : [':', '-'] <+: c :: cs
      · obtain ⟨default, hcs⟩ := hfirst
        exact ⟨[], default, hcs.symm, by simp⟩
      · obtain ⟨name, default, rfl, hname⟩ := ih ((List.infix_cons_iff.mp h).resolve_left hfirst)
        refine ⟨c :: name, default, rfl, fun hinfix => ?_⟩
        rcases List.infix_cons_iff.mp hinfix with hfront | hbehind
        · exact hfirst (hfront.trans (List.prefix_append (c :: name) _))
        · exact hname hbehind

/-- Whatever stands between braces is a name, with a default or without. -/
theorem exists_between (inside : List Char) :
    ∃ name default, inside = between name default ∧ Separates name default := by
  by_cases hplain : [':', '-'] <:+: inside
  · obtain ⟨name, default, rfl, hname⟩ := exists_first_separator hplain
    by_cases hempty : name = []
    · subst hempty
      exact ⟨_, none, rfl, Or.inl (List.prefix_append [':', '-'] default)⟩
    · exact ⟨name, some default, rfl, hempty, hname⟩
  · exact ⟨inside, none, rfl, Or.inr hplain⟩

/-! ## Segments and pieces -/

/-- The piece that a segment is read as. -/
def Segment.piece : Segment → Piece
  | .char c => .char c
  | .doubled => .char '$'
  | .bare name => .reference name none
  | .braced name default => .reference name default

theorem takeWhile_name {name rest : List Char} (hname : ∀ c ∈ name, isNameCharacter c = true)
    (hrest : ∀ d ∈ rest.head?, isNameCharacter d = false) :
    (name ++ rest).takeWhile isNameCharacter = name ∧
      (name ++ rest).dropWhile isNameCharacter = rest := by
  rw [List.takeWhile_append_of_pos hname, List.dropWhile_append_of_pos hname]
  cases rest with
  | nil => simp
  | cons d rest => simp [hrest d rfl]

set_option maxRecDepth 4000 in
theorem isNameCharacter_dollar : isNameCharacter '$' = false := by
  decide

set_option maxRecDepth 4000 in
theorem isNameCharacter_brace : isNameCharacter '\x7b' = false := by
  decide

theorem pieces_char {c : Char} (hc : c ≠ '$') (rest : List Char) :
    pieces (c :: rest) = .char c :: pieces rest := by
  rw [pieces.eq_5]
  · exact fun _ h _ => hc h
  · exact fun _ h _ => hc h
  · exact hc

theorem pieces_braces {inside : List Char} (hinside : '\x7d' ∉ inside) (rest : List Char) :
    pieces ('$' :: '\x7b' :: (inside ++ '\x7d' :: rest)) =
      Settings.braced inside :: pieces rest := by
  have hsplit := splitClosing?_append hinside rest
  rw [pieces.eq_3]
  split
  next hnone => simp [hsplit] at hnone
  next found after hfound =>
    rw [hsplit, Option.some.injEq, Prod.mk.injEq] at hfound
    obtain ⟨rfl, rfl⟩ := hfound
    rfl

theorem pieces_unclosed {rest : List Char} (hrest : '\x7d' ∉ rest) :
    pieces ('$' :: '\x7b' :: rest) = .char '$' :: .char '\x7b' :: pieces rest := by
  have hsplit := splitClosing?_eq_none hrest
  rw [pieces.eq_3]
  split
  next => rfl
  next found after hfound => simp [hsplit] at hfound

theorem pieces_name {name rest : List Char} (hne : name ≠ [])
    (hname : ∀ c ∈ name, isNameCharacter c = true)
    (hrest : ∀ d ∈ rest.head?, isNameCharacter d = false) :
    pieces ('$' :: (name ++ rest)) = .reference name none :: pieces rest := by
  obtain ⟨htake, hdrop⟩ := takeWhile_name hname hrest
  obtain ⟨c, others, rfl⟩ := List.exists_cons_of_ne_nil hne
  have hc := hname c List.mem_cons_self
  rw [pieces.eq_4, htake, hdrop]
  · rfl
  · rintro behind h
    obtain ⟨rfl, -⟩ := List.cons.inj h
    simp [isNameCharacter_dollar] at hc
  · rintro behind h
    obtain ⟨rfl, -⟩ := List.cons.inj h
    simp [isNameCharacter_brace] at hc

/-- A dollar sign stands for itself where nothing fits behind it. -/
theorem pieces_dollar {rest : List Char}
    (hopen : ∀ behind, rest = '\x7b' :: behind → '\x7d' ∉ behind)
    (hnext : ∀ d ∈ rest.head?, d ≠ '$' ∧ isNameCharacter d = false) :
    pieces ('$' :: rest) = .char '$' :: pieces rest := by
  by_cases hbrace : ∃ behind, rest = '\x7b' :: behind
  · obtain ⟨behind, rfl⟩ := hbrace
    rw [pieces_unclosed (hopen behind rfl), pieces_char (by decide)]
  · have hempty : rest.takeWhile isNameCharacter = [] := by
      cases rest with
      | nil => rfl
      | cons d rest => simp [(hnext d rfl).2]
    rw [pieces.eq_4, hempty]
    · rfl
    · rintro behind rfl
      exact (hnext '$' rfl).1 rfl
    · exact fun behind h => hbrace ⟨behind, h⟩

theorem pieces_of_fits {s : Segment} {rest : List Char} (h : s.Fits true rest) :
    pieces (s.source ++ rest) = s.piece :: pieces rest := by
  cases s with
  | char c =>
      by_cases hc : c = '$'
      · subst hc
        exact pieces_dollar (h rfl).1 ((h rfl).2 rfl)
      · exact pieces_char hc rest
  | doubled => exact pieces.eq_2 rest
  | bare name => exact pieces_name h.2.1 h.2.2.1 h.2.2.2
  | braced name default =>
      have hsource : (Segment.braced name default).source ++ rest =
          '$' :: '\x7b' :: (between name default ++ '\x7d' :: rest) := by
        simp [Segment.source]
      rw [hsource, pieces_braces h.1, braced_between h.2]
      rfl

theorem Cuts.pieces_eq {cs : List Char} {segments : List Segment} (h : Cuts true cs segments) :
    pieces cs = segments.map (·.piece) := by
  induction h with
  | nil => rw [pieces, List.map_nil]
  | cons hfits _ ih => rw [pieces_of_fits hfits, ih, List.map_cons]

/-- Every text can be cut. -/
theorem exists_cuts (cs : List Char) : ∃ segments, Cuts true cs segments := by
  induction cs using pieces.induct with
  | case1 => exact ⟨[], .nil⟩
  | case2 rest ih =>
      obtain ⟨segments, hrest⟩ := ih
      exact ⟨_, Cuts.cons (s := .doubled) rfl hrest⟩
  | case3 rest hnone ih =>
      obtain ⟨segments, hrest⟩ := ih
      have hbrace : Cuts true ('\x7b' :: rest) (.char '\x7b' :: segments) :=
        .cons (s := .char '\x7b') (fun h => absurd h (by decide)) hrest
      refine ⟨_, Cuts.cons (s := .char '$') (fun _ => ⟨?_, fun _ d hd => ?_⟩) hbrace⟩
      · rintro behind h hclosed
        obtain ⟨-, rfl⟩ := List.cons.inj h
        obtain ⟨inside, after, rfl, hinside⟩ := List.eq_append_cons_of_mem hclosed
        simp [splitClosing?_append hinside] at hnone
      · obtain rfl := Option.some.inj hd
        exact ⟨by decide, isNameCharacter_brace⟩
  | case4 rest inside after hsome _ ih =>
      obtain ⟨segments, hrest⟩ := ih
      obtain ⟨rfl, hinside⟩ := splitClosing?_eq_some hsome
      obtain ⟨name, default, rfl, hseparates⟩ := exists_between inside
      have hcuts := Cuts.cons (s := .braced name default) ⟨hinside, hseparates⟩ hrest
      exact ⟨_, by simpa [Segment.source] using hcuts⟩
  | case5 rest hdollar hbrace _ hempty ih =>
      obtain ⟨segments, hrest⟩ := ih
      refine ⟨_, Cuts.cons (s := .char '$') (fun _ => ⟨?_, fun _ d hd => ⟨?_, ?_⟩⟩) hrest⟩
      · exact fun behind h => (hbrace behind h).elim
      · rintro rfl
        obtain ⟨behind, hbehind⟩ := List.head?_eq_some_iff.mp hd
        exact hdollar behind hbehind
      · obtain ⟨behind, rfl⟩ := List.head?_eq_some_iff.mp hd
        by_contra hname
        rw [Bool.not_eq_false] at hname
        simp [hname] at hempty
  | case6 rest hdollar hbrace _ hname ih =>
      obtain ⟨segments, hrest⟩ := ih
      have hfits : (Segment.bare (rest.takeWhile isNameCharacter)).Fits true
          (rest.dropWhile isNameCharacter) := by
        refine ⟨rfl, by simpa using hname, fun c hc => List.mem_takeWhile_imp hc, ?_⟩
        intro d hd
        have hnot := List.head?_dropWhile_not isNameCharacter rest
        rw [Option.mem_def.mp hd] at hnot
        exact hnot
      have hcuts := Cuts.cons hfits hrest
      rw [Segment.source, List.cons_append, List.takeWhile_append_dropWhile] at hcuts
      exact ⟨_, hcuts⟩
  | case7 c rest _ _ hc ih =>
      obtain ⟨segments, hrest⟩ := ih
      exact ⟨_, Cuts.cons (s := .char c) (fun h => absurd h hc) hrest⟩

/-! ## One reading of a text -/

theorem eq_of_append_closing {inside inside' rest rest' : List Char} (h : '\x7d' ∉ inside)
    (h' : '\x7d' ∉ inside') (heq : inside ++ '\x7d' :: rest = inside' ++ '\x7d' :: rest') :
    inside = inside' ∧ rest = rest' := by
  have hsplit := splitClosing?_append h rest
  rw [heq, splitClosing?_append h', Option.some.injEq, Prod.mk.injEq] at hsplit
  exact ⟨hsplit.1.symm, hsplit.2.symm⟩

theorem between_injective {name name' : List Char} {default default' : Option (List Char)}
    (h : Separates name default) (h' : Separates name' default')
    (heq : between name default = between name' default') : name = name' ∧ default = default' := by
  have hbraced := braced_between h
  rw [heq, braced_between h', Piece.reference.injEq] at hbraced
  exact ⟨hbraced.1.symm, hbraced.2.symm⟩

section Unique

variable {bareCounts : Bool} {rest rest' : List Char}

/-- A dollar sign that is a character has nothing behind it that counts. -/
theorem Segment.Fits.unique_char {s : Segment} {c : Char} (h : s.Fits bareCounts rest)
    (h' : (Segment.char c).Fits bareCounts rest') (heq : s.source ++ rest = c :: rest') :
    s = .char c ∧ rest = rest' := by
  cases s with
  | char d =>
      obtain ⟨rfl, rfl⟩ := List.cons.inj heq
      exact ⟨rfl, rfl⟩
  | doubled =>
      obtain ⟨rfl, rfl⟩ := List.cons.inj heq
      exact absurd rfl ((h' rfl).2 h '$' rfl).1
  | bare name =>
      obtain ⟨hcounts, hne, hname, -⟩ := h
      obtain ⟨rfl, rfl⟩ := List.cons.inj heq
      obtain ⟨d, others, rfl⟩ := List.exists_cons_of_ne_nil hne
      have hd := ((h' rfl).2 hcounts d rfl).2
      simp [hname d List.mem_cons_self] at hd
  | braced name default =>
      obtain ⟨rfl, rfl⟩ := List.cons.inj heq
      refine absurd ?_ ((h' rfl).1 _ rfl)
      simp

/-- Behind the dollar sign of a name without braces stands a character of the name. -/
theorem Segment.Fits.bare_next {name behind : List Char} {d : Char}
    (h : (Segment.bare name).Fits bareCounts rest)
    (heq : (Segment.bare name).source ++ rest = '$' :: d :: behind) : isNameCharacter d = true := by
  obtain ⟨-, hne, hname, -⟩ := h
  obtain ⟨c, others, rfl⟩ := List.exists_cons_of_ne_nil hne
  obtain ⟨-, hbehind⟩ := List.cons.inj heq
  obtain ⟨rfl, -⟩ := List.cons.inj hbehind
  exact hname c List.mem_cons_self

theorem Segment.Fits.unique {s t : Segment} (h : s.Fits bareCounts rest)
    (h' : t.Fits bareCounts rest') (heq : s.source ++ rest = t.source ++ rest') :
    s = t ∧ rest = rest' := by
  have hdollar := isNameCharacter_dollar
  have hbrace := isNameCharacter_brace
  cases s with
  | char c =>
      obtain ⟨rfl, hrest⟩ := h'.unique_char h heq.symm
      exact ⟨rfl, hrest.symm⟩
  | doubled =>
      cases t with
      | char c => exact h.unique_char h' heq
      | doubled => exact ⟨rfl, by simpa [Segment.source] using heq⟩
      | bare name =>
          have hnext := h'.bare_next heq.symm
          simp [hdollar] at hnext
      | braced name default => simp [Segment.source] at heq
  | bare name =>
      cases t with
      | char c => exact h.unique_char h' heq
      | doubled =>
          have hnext := h.bare_next heq
          simp [hdollar] at hnext
      | bare name' =>
          have hsame : name ++ rest = name' ++ rest' := by simpa [Segment.source] using heq
          obtain ⟨htake, hdrop⟩ := takeWhile_name h.2.2.1 h.2.2.2
          obtain ⟨htake', hdrop'⟩ := takeWhile_name h'.2.2.1 h'.2.2.2
          rw [hsame] at htake hdrop
          exact ⟨by rw [← htake, htake'], by rw [← hdrop, hdrop']⟩
      | braced name' default =>
          have hnext := h.bare_next heq
          simp [hbrace] at hnext
  | braced name default =>
      cases t with
      | char c => exact h.unique_char h' heq
      | doubled => simp [Segment.source] at heq
      | bare name' =>
          have hnext := h'.bare_next heq.symm
          simp [hbrace] at hnext
      | braced name' default' =>
          obtain ⟨hinside, hrest⟩ := eq_of_append_closing h.1 h'.1
            (by simpa [Segment.source] using heq)
          obtain ⟨rfl, rfl⟩ := between_injective h.2 h'.2 hinside
          exact ⟨rfl, hrest⟩

theorem Segment.source_ne_nil (s : Segment) : s.source ≠ [] := by
  cases s <;> exact List.cons_ne_nil _ _

/-- There is one way to cut a text. -/
theorem Cuts.unique {cs : List Char} {segments others : List Segment}
    (h : Cuts bareCounts cs segments) (hothers : Cuts bareCounts cs others) :
    segments = others := by
  induction h generalizing others with
  | nil =>
      generalize hcs : ([] : List Char) = cs at hothers
      cases hothers with
      | nil => rfl
      | @cons s _ _ _ _ => simp [s.source_ne_nil] at hcs
  | @cons s rest segments hfits hrest ih =>
      generalize hcs : s.source ++ rest = cs at hothers
      cases hothers with
      | nil => simp [s.source_ne_nil] at hcs
      | cons hfits' hrest' =>
          obtain ⟨rfl, rfl⟩ := hfits.unique hfits' hcs
          rw [ih hrest']

end Unique

/-! ## Values -/

section Values

variable {environment : Environment}

def Segment.value (environment : Environment) (s : Segment) : Except String (List Char) :=
  s.piece.value environment

theorem Segment.HasValue.value_eq {s : Segment} {value : List Char}
    (h : s.HasValue environment value) : s.value environment = .ok value := by
  cases h with
  | char c => rfl
  | doubled => rfl
  | bare hset => simp [Segment.value, Segment.piece, Piece.value, hset]
  | braced default hset => simp [Segment.value, Segment.piece, Piece.value, hset]
  | default hunset => simp [Segment.value, Segment.piece, Piece.value, hunset]

theorem Segment.Lacks.value_eq {s : Segment} {name : String} (h : s.Lacks environment name) :
    s.value environment = .error name := by
  obtain ⟨hunset, rfl | rfl⟩ := h
  · simp [Segment.value, Segment.piece, Piece.value, hunset]
  · simp [Segment.value, Segment.piece, Piece.value, hunset]

theorem Segment.hasValue_or_lacks (environment : Environment) (s : Segment) :
    (∃ value, s.HasValue environment value) ∨ ∃ name, s.Lacks environment name := by
  cases s with
  | char c => exact .inl ⟨_, .char c⟩
  | doubled => exact .inl ⟨_, .doubled⟩
  | bare name =>
      cases hlookup : environment.lookup (String.ofList name) with
      | none => exact .inr ⟨_, hlookup, .inl (by rw [String.toList_ofList])⟩
      | some value => exact .inl ⟨_, .bare hlookup⟩
  | braced name default =>
      cases hlookup : environment.lookup (String.ofList name) with
      | none =>
          cases default with
          | none => exact .inr ⟨_, hlookup, .inr (by rw [String.toList_ofList])⟩
          | some default => exact .inl ⟨_, .default hlookup⟩
      | some value => exact .inl ⟨_, .braced default hlookup⟩

theorem Segment.value_eq_ok_iff {s : Segment} {value : List Char} :
    s.value environment = .ok value ↔ s.HasValue environment value := by
  refine ⟨fun h => ?_, HasValue.value_eq⟩
  rcases s.hasValue_or_lacks environment with ⟨found, hfound⟩ | ⟨name, hlacks⟩
  · cases h.symm.trans hfound.value_eq
    exact hfound
  · cases h.symm.trans hlacks.value_eq

theorem Segment.value_eq_error_iff {s : Segment} {name : String} :
    s.value environment = .error name ↔ s.Lacks environment name := by
  refine ⟨fun h => ?_, Lacks.value_eq⟩
  rcases s.hasValue_or_lacks environment with ⟨value, hvalue⟩ | ⟨found, hlacks⟩
  · cases h.symm.trans hvalue.value_eq
  · cases h.symm.trans hlacks.value_eq
    exact hlacks

/-- The values of segments behind each other. -/
def replaceAll (environment : Environment) (segments : List Segment) : Except String String :=
  (segments.mapM (Segment.value environment)).map fun values => String.ofList values.flatten

theorem replaceAll_eq_ok_iff {segments : List Segment} {result : String} :
    replaceAll environment segments = .ok result ↔
      ∃ values, List.Forall₂ (Segment.HasValue environment) segments values ∧
        String.ofList values.flatten = result := by
  rw [replaceAll, map_eq_ok_iff]
  simp only [mapM_eq_ok_iff, Segment.value_eq_ok_iff]

theorem replaceAll_eq_error_iff {segments : List Segment} {name : String} :
    replaceAll environment segments = .error name ↔
      ∃ before s after, segments = before ++ s :: after ∧
        (∀ t ∈ before, ∃ value, t.HasValue environment value) ∧ s.Lacks environment name := by
  simp only [← Segment.value_eq_ok_iff, ← Segment.value_eq_error_iff]
  constructor
  · intro h
    apply exists_first_of_mapM_eq_error
    cases hvalues : segments.mapM (Segment.value environment) with
    | error e => simpa [replaceAll, hvalues, Except.map] using h
    | ok values => simp [replaceAll, hvalues, Except.map] at h
  · rintro ⟨before, s, after, rfl, hbefore, hs⟩
    rw [replaceAll, mapM_eq_error_of_first hbefore hs]
    rfl

theorem Cuts.expansion_iff {bareCounts : Bool} {text : String} {segments : List Segment}
    (hcuts : Cuts bareCounts text.toList segments) {outcome : Except String String} :
    Expansion bareCounts environment text outcome ↔ replaceAll environment segments = outcome := by
  constructor
  · intro h
    cases h with
    | ok hothers hvalues =>
        obtain rfl := hcuts.unique hothers
        exact replaceAll_eq_ok_iff.mpr ⟨_, hvalues, rfl⟩
    | error hothers hbefore hlacks =>
        obtain rfl := hcuts.unique hothers
        exact replaceAll_eq_error_iff.mpr ⟨_, _, _, rfl, hbefore, hlacks⟩
  · rintro rfl
    cases hresult : replaceAll environment segments with
    | ok result =>
        obtain ⟨values, hvalues, rfl⟩ := replaceAll_eq_ok_iff.mp hresult
        exact .ok hcuts hvalues
    | error name =>
        obtain ⟨before, s, after, rfl, hbefore, hlacks⟩ := replaceAll_eq_error_iff.mp hresult
        exact .error hcuts hbefore hlacks

/-! ## Expanding -/

theorem hasReferences_iff {cs : List Char} : hasReferences cs = true ↔ ['$', '\x7b'] <:+: cs := by
  fun_induction hasReferences cs with
  | case1 => simp
  | case2 rest => simp [List.infix_cons_iff]
  | case3 c rest hopen ih =>
      rw [List.infix_cons_iff, ih]
      constructor
      · exact Or.inr
      · rintro (⟨behind, h⟩ | hinfix)
        · obtain ⟨rfl, rfl⟩ := List.cons.inj h
          exact (hopen behind rfl rfl).elim
        · exact hinfix

theorem expand_of_references {text : String} (hreferences : ['$', '\x7b'] <:+: text.toList)
    {segments : List Segment} (hcuts : Cuts true text.toList segments) :
    expand environment text = replaceAll environment segments := by
  rw [expand, if_pos (hasReferences_iff.mpr hreferences), hcuts.pieces_eq, List.mapM_map,
    replaceAll]
  rfl

theorem cuts_of_no_references {cs : List Char} (h : ¬['$', '\x7b'] <:+: cs) :
    Cuts false cs (cs.map .char) := by
  induction cs with
  | nil => exact .nil
  | cons c cs ih =>
      refine Cuts.cons (s := .char c) ?_ (ih fun hinfix => h (List.infix_cons hinfix))
      rintro rfl
      refine ⟨?_, nofun⟩
      rintro behind rfl
      exact absurd ⟨[], behind, rfl⟩ h

theorem replaceAll_chars (cs : List Char) :
    replaceAll environment (cs.map .char) = .ok (String.ofList cs) := by
  refine replaceAll_eq_ok_iff.mpr
    ⟨cs.map fun c => [c], ?_, by rw [← List.flatMap_def, List.flatMap_singleton']⟩
  rw [List.forall₂_map_left_iff, List.forall₂_map_right_iff, List.forall₂_same]
  exact fun c _ => .char c

theorem Segment.Fits.of_plain {s : Segment} {rest : List Char} (h : s.Fits true rest)
    (hplain : s.isPlain = true) : s.Fits false rest := by
  cases s with
  | char c => exact fun hc => ⟨(h hc).1, nofun⟩
  | doubled => cases hplain
  | bare name => cases hplain
  | braced name default => exact h

theorem Cuts.of_plain {cs : List Char} {segments : List Segment} (h : Cuts true cs segments)
    (hplain : segments.all (·.isPlain) = true) : Cuts false cs segments := by
  induction h with
  | nil => exact .nil
  | cons hfits _ ih =>
      rw [List.all_cons, Bool.and_eq_true] at hplain
      exact .cons (hfits.of_plain hplain.1) (ih hplain.2)

theorem expand_of_spared (environment : Environment) {text : String}
    (h : ['$', '\x7b'] <:+: text.toList → SparesBare text) :
    ∃ segments, Cuts false text.toList segments ∧
      expand environment text = replaceAll environment segments := by
  by_cases hreferences : ['$', '\x7b'] <:+: text.toList
  · obtain ⟨segments, hcuts⟩ := exists_cuts text.toList
    exact ⟨segments, hcuts.of_plain (h hreferences segments hcuts),
      expand_of_references hreferences hcuts⟩
  · have hnone := mt hasReferences_iff.mp hreferences
    refine ⟨_, cuts_of_no_references hreferences, ?_⟩
    rw [expand, if_neg hnone, replaceAll_chars, String.ofList_toList]

theorem expandField_eq_iff {field text : String} {outcome : Except String String} :
    expandField environment field text = outcome.mapError (.unset field) ↔
      expand environment text = outcome := by
  rw [expandField]
  cases expand environment text <;> cases outcome <;> simp [Except.mapError]

end Values

/-- A text with a brace behind a dollar sign is expanded in the reading in which names without
braces and doubled dollar signs count. What has none of these is expanded as it should be: only
references in braces are replaced, all else is copied, and only such a reference without a default
can be unset. -/
theorem expandField_exact (environment : Environment) (field text : String)
    (outcome : Except String String) :
    (['$', '\x7b'] <:+: text.toList →
        (expandField environment field text = outcome.mapError (.unset field) ↔
          Expansion true environment text outcome)) ∧
      ((['$', '\x7b'] <:+: text.toList → SparesBare text) →
        (expandField environment field text = outcome.mapError (.unset field) ↔
          Expansion false environment text outcome)) := by
  constructor
  · intro hreferences
    obtain ⟨segments, hcuts⟩ := exists_cuts text.toList
    rw [expandField_eq_iff, hcuts.expansion_iff, expand_of_references hreferences hcuts]
  · intro hspared
    obtain ⟨segments, hcuts, hexpand⟩ := expand_of_spared environment hspared
    rw [expandField_eq_iff, hcuts.expansion_iff, hexpand]

/-- A default that is used, and a dollar sign with nothing behind it. -/
def sparedText : String :=
  "$\x7bOUT:-www\x7d/$"

theorem sparedText_cuts : Cuts true sparedText.toList
    [.braced ['O', 'U', 'T'] (some ['w', 'w', 'w']), .char '/', .char '$'] := by
  have hdollar : Cuts true ['$'] [.char '$'] :=
    Cuts.cons (s := .char '$') (fun _ => ⟨nofun, nofun⟩) .nil
  have hslash : Cuts true ['/', '$'] [.char '/', .char '$'] :=
    Cuts.cons (s := .char '/') (fun h => absurd h (by decide)) hdollar
  have hbraces : (Segment.braced ['O', 'U', 'T'] (some ['w', 'w', 'w'])).Fits true ['/', '$'] :=
    ⟨by decide, by decide, by decide⟩
  have htext : sparedText.toList =
      (Segment.braced ['O', 'U', 'T'] (some ['w', 'w', 'w'])).source ++ ['/', '$'] := by
    decide
  rw [htext]
  exact .cons hbraces hslash

theorem sparedText_expanded : ['$', '\x7b'] <:+: sparedText.toList ∧ SparesBare sparedText ∧
    expandField [] "export.output_dir" sparedText = .ok "www/$" ∧
    Expansion true [] sparedText (.ok "www/$") ∧ Expansion false [] sparedText (.ok "www/$") := by
  have hreferences : ['$', '\x7b'] <:+: sparedText.toList := by decide
  have hspared : SparesBare sparedText := by
    intro segments hcuts
    rw [hcuts.unique sparedText_cuts]
    rfl
  have hexpand : expandField [] "export.output_dir" sparedText = .ok "www/$" := by decide +kernel
  have hexact := expandField_exact [] "export.output_dir" sparedText (.ok "www/$")
  exact ⟨hreferences, hspared, hexpand, (hexact.1 hreferences).mp hexpand,
    (hexact.2 fun _ => hspared).mp hexpand⟩

/-! ## Names without braces -/

/-- A name in braces behind a name without. -/
def mixedText : String :=
  "$A-$\x7bB\x7d"

theorem mixedText_cuts : Cuts false mixedText.toList
    [.char '$', .char 'A', .char '-', .braced ['B'] none] := by
  have hbraces : Cuts false ['$', '\x7b', 'B', '\x7d'] [.braced ['B'] none] :=
    Cuts.cons (s := .braced ['B'] none) ⟨by decide, Or.inr (by decide)⟩ .nil
  have hdash := Cuts.cons (s := .char '-') (fun h => absurd h (by decide)) hbraces
  have hname := Cuts.cons (s := .char 'A') (fun h => absurd h (by decide)) hdash
  have htext : mixedText.toList = ['$', 'A', '-', '$', '\x7b', 'B', '\x7d'] := by decide
  rw [htext]
  exact Cuts.cons (s := .char '$') (fun _ => ⟨nofun, nofun⟩) hname

/-- A name without braces is replaced as well where some reference stands in braces, and fails
where its variable is unset. -/
theorem bare_name_replaced :
    (expandField [("A", "x"), ("B", "y")] "export.output_dir" mixedText = .ok "x-y" ∧
        ¬Expansion false [("A", "x"), ("B", "y")] mixedText (.ok "x-y")) ∧
      expandField [("B", "y")] "export.output_dir" mixedText =
          .error (.unset "export.output_dir" "A") ∧
        Expansion false [("B", "y")] mixedText (.ok "$A-y") := by
  refine ⟨⟨by decide +kernel, ?_⟩, by decide +kernel, ?_⟩
  · rw [mixedText_cuts.expansion_iff]
    decide +kernel
  · rw [mixedText_cuts.expansion_iff]
    decide +kernel

end StaticSite.Settings
