import Mathlib.Data.List.DropRight
import StaticSite.Disk.Path

/-!
# Segments of paths

A path is its segments with slashes between them, and joining paths puts their segments one
behind the other. So a path is absolute exactly if its first segment is empty and another one
follows, and the path above another one has the segments in front of its last.
-/

namespace StaticSite

open Text

theorem Text.splitWhere_append_cut {cuts : Char → Bool} {c : Char} (hc : cuts c = true)
    (a b : List Char) :
    splitWhere cuts (a ++ c :: b) = splitWhere cuts a ++ splitWhere cuts b := by
  induction a with
  | nil => simp [splitWhere, hc]
  | cons d rest ih =>
      have hpieces : splitWhere cuts rest ≠ [] := splitWhere_ne_nil cuts rest
      obtain ⟨piece, pieces, hsplit⟩ := List.exists_cons_of_ne_nil hpieces
      rw [hsplit] at ih
      cases hd : cuts d with
      | true => simp [splitWhere, hd, ih, hsplit]
      | false => simp [splitWhere, hd, ih, hsplit]

theorem Text.splitWhere_of_not_cut {cuts : Char → Bool} {cs : List Char}
    (hcs : ∀ c ∈ cs, cuts c = false) : splitWhere cuts cs = [cs] := by
  induction cs with
  | nil => rfl
  | cons c rest ih =>
      have hc : cuts c = false := hcs c List.mem_cons_self
      have hrest : splitWhere cuts rest = [rest] :=
        ih fun d hd => hcs d (List.mem_cons_of_mem c hd)
      simp [splitWhere, hc, hrest]

/-- The characters of the pieces are those of the text at which it is not cut. -/
theorem Text.mem_of_mem_splitWhere {cuts : Char → Bool} {cs piece : List Char}
    (hpiece : piece ∈ splitWhere cuts cs) : ∀ c ∈ piece, c ∈ cs ∧ cuts c = false := by
  induction cs generalizing piece with
  | nil =>
      intro c hc
      simp [splitWhere] at hpiece
      simp [hpiece] at hc
  | cons d rest ih =>
      have hpieces : splitWhere cuts rest ≠ [] := splitWhere_ne_nil cuts rest
      obtain ⟨first, others, hsplit⟩ := List.exists_cons_of_ne_nil hpieces
      rw [hsplit] at ih
      have hlater : ∀ p ∈ first :: others, ∀ c ∈ p, c ∈ d :: rest ∧ cuts c = false := by
        intro p hp c hc
        obtain ⟨hmem, hcut⟩ := ih hp c hc
        exact ⟨List.mem_cons_of_mem d hmem, hcut⟩
      intro c hc
      cases hd : cuts d with
      | true =>
          simp only [splitWhere, hd, hsplit, List.mem_cons] at hpiece
          rcases hpiece with rfl | hrest
          · simp at hc
          · exact hlater piece (List.mem_cons.mpr hrest) c hc
      | false =>
          simp only [splitWhere, hd, hsplit, List.mem_cons] at hpiece
          rcases hpiece with rfl | hrest
          · rcases List.mem_cons.mp hc with rfl | hfirst
            · exact ⟨List.mem_cons_self, hd⟩
            · exact hlater first List.mem_cons_self c hfirst
          · exact hlater piece (List.mem_cons_of_mem first hrest) c hc

namespace Path

theorem segments_ne_nil (path : String) : segments path ≠ [] := by
  simp [segments, splitWhere_ne_nil]

theorem segments_append_slash (a b : String) :
    segments (a ++ "/" ++ b) = segments a ++ segments b := by
  have hcut : isSlash '/' = true := rfl
  simp [segments, splitWhere_append_cut hcut]

/-- A segment that could stand in a path. -/
def IsPlain (segment : String) : Prop :=
  '/' ∉ segment.toList

instance (segment : String) : Decidable (IsPlain segment) :=
  inferInstanceAs (Decidable (¬_))

theorem segments_of_isPlain {segment : String} (hplain : IsPlain segment) :
    segments segment = [segment] := by
  have hcuts : ∀ c ∈ segment.toList, isSlash c = false := by
    intro c hc
    rw [isSlash, decide_eq_false_iff_not]
    rintro rfl
    exact hplain hc
  simp [segments, splitWhere_of_not_cut hcuts]

theorem mem_of_mem_segments {path segment : String} (hsegment : segment ∈ segments path) :
    ∀ c ∈ segment.toList, c ∈ path.toList ∧ c ≠ '/' := by
  obtain ⟨piece, hpiece, rfl⟩ := List.mem_map.mp hsegment
  intro c hc
  rw [String.toList_ofList] at hc
  obtain ⟨hmem, hcut⟩ := mem_of_mem_splitWhere hpiece c hc
  rw [isSlash, decide_eq_false_iff_not] at hcut
  exact ⟨hmem, hcut⟩

theorem isPlain_of_mem_segments {path segment : String} (hsegment : segment ∈ segments path) :
    IsPlain segment :=
  fun hslash => (mem_of_mem_segments hsegment '/' hslash).2 rfl

/-! ## Paths of segments -/

theorem segments_intercalate {names : List String} (hne : names ≠ [])
    (hplain : ∀ name ∈ names, IsPlain name) :
    segments (String.intercalate "/" names) = names := by
  induction names with
  | nil => exact absurd rfl hne
  | cons name rest ih =>
      have hname : segments name = [name] :=
        segments_of_isPlain (hplain name List.mem_cons_self)
      cases rest with
      | nil => simpa using hname
      | cons next rest =>
          have hrest : segments (String.intercalate "/" (next :: rest)) = next :: rest :=
            ih (List.cons_ne_nil _ _) fun n hn => hplain n (List.mem_cons_of_mem name hn)
          rw [String.intercalate_cons_cons, segments_append_slash, hname, hrest]
          rfl

/-- A path is its segments with slashes between them. -/
theorem intercalate_segments (path : String) : String.intercalate "/" (segments path) = path := by
  have hchars : ∀ cs : List Char,
      String.intercalate "/" ((splitWhere isSlash cs).map String.ofList) = String.ofList cs := by
    intro cs
    induction cs with
    | nil => rfl
    | cons c rest ih =>
        obtain ⟨piece, pieces, hsplit⟩ :=
          List.exists_cons_of_ne_nil (splitWhere_ne_nil isSlash rest)
        rw [hsplit] at ih
        by_cases hc : c = '/'
        · subst hc
          have hslash : splitWhere isSlash ('/' :: rest) = [] :: piece :: pieces := by
            simp [splitWhere, isSlash, hsplit]
          rw [hslash, List.map_cons, List.map_cons, String.intercalate_cons_cons, ← List.map_cons,
            ih]
          apply String.toList_inj.mp
          simp
        · have hother : splitWhere isSlash (c :: rest) = (c :: piece) :: pieces := by
            simp [splitWhere, isSlash, hsplit, hc]
          rw [hother]
          apply String.toList_inj.mp
          rw [← String.toList_inj] at ih
          cases pieces with
          | nil => simpa using ih
          | cons next others => simpa [String.intercalate_cons_cons] using ih
  have hpath := hchars path.toList
  rwa [String.ofList_toList] at hpath

theorem ofSegments_eq {names : List String} (hroot : names ≠ [""]) :
    ofSegments names = String.intercalate "/" names := by
  unfold ofSegments
  split
  · contradiction
  · rfl

theorem segments_ofSegments {names : List String} (hne : names ≠ []) (hroot : names ≠ [""])
    (hplain : ∀ name ∈ names, IsPlain name) : segments (ofSegments names) = names := by
  rw [ofSegments_eq hroot, segments_intercalate hne hplain]

theorem ofSegments_segments {path : String} (hne : path ≠ "") :
    ofSegments (segments path) = path := by
  have hroot : segments path ≠ [""] := by
    intro hempty
    apply hne
    rw [← intercalate_segments path, hempty]
    rfl
  rw [ofSegments_eq hroot, intercalate_segments]

section Above

variable {path : String} {front rest : List String} (hpath : segments path = front ++ rest)
include hpath

theorem isPlain_of_front : ∀ name ∈ front, IsPlain name := by
  intro name hname
  have hmem : name ∈ segments path := by
    rw [hpath]
    exact List.mem_append_left rest hname
  exact isPlain_of_mem_segments hmem

theorem segments_front (hne : front ≠ []) (hroot : front ≠ [""]) :
    segments (ofSegments front) = front :=
  segments_ofSegments hne hroot (isPlain_of_front hpath)

end Above

/-! ## The first segment -/

theorem isAbsolute_of_segments {path first second : String} {rest : List String}
    (hpath : segments path = first :: second :: rest) :
    isAbsolute path = decide (first = "") := by
  have hjoined : path = first ++ ("/" ++ String.intercalate "/" (second :: rest)) := by
    rw [← String.append_assoc, ← String.intercalate_cons_cons, ← hpath, intercalate_segments]
  have hmem : first ∈ segments path := by
    rw [hpath]
    exact List.mem_cons_self
  have hplain : IsPlain first := isPlain_of_mem_segments hmem
  by_cases hfirst : first = ""
  · subst hfirst
    rw [isAbsolute, hjoined]
    simp
  · have hchars : first.toList ≠ [] := by simpa using hfirst
    obtain ⟨c, chars, hcons⟩ := List.exists_cons_of_ne_nil hchars
    have hc : c ≠ '/' := by
      rintro rfl
      apply hplain
      rw [hcons]
      exact List.mem_cons_self
    rw [isAbsolute, hjoined]
    simp [hcons, hc, hfirst]

theorem isAbsolute_of_isPlain {path : String} (hplain : IsPlain path) :
    isAbsolute path = false := by
  rw [isAbsolute, decide_eq_false_iff_not]
  intro hhead
  exact hplain (List.mem_of_mem_head? hhead)

theorem isAbsolute_append {a : String} (hne : a ≠ "") (b : String) :
    isAbsolute (a ++ b) = isAbsolute a := by
  have hchars : a.toList ≠ [] := by simpa using hne
  obtain ⟨c, chars, hcons⟩ := List.exists_cons_of_ne_nil hchars
  simp [isAbsolute, hcons]

theorem isAbsolute_ofSegments {first : String} {rest : List String}
    (hplain : ∀ name ∈ first :: rest, IsPlain name) :
    isAbsolute (ofSegments (first :: rest)) = decide (first = "") := by
  have hfirst : IsPlain first := hplain first List.mem_cons_self
  cases rest with
  | nil =>
      by_cases hempty : first = ""
      · subst hempty
        rfl
      · have hname : ofSegments [first] = first := by
          rw [ofSegments_eq (by simpa using hempty)]
          simp
        rw [hname, isAbsolute_of_isPlain hfirst, decide_eq_false hempty]
  | cons second rest =>
      have hsegments : segments (ofSegments (first :: second :: rest)) = first :: second :: rest :=
        segments_ofSegments (by simp) (by simp) hplain
      exact isAbsolute_of_segments hsegments

/-! ## Idle segments -/

theorem dropIdle_cons (first : String) (rest : List String) :
    dropIdle (first :: rest) = first :: rest.rdropWhile isIdle := rfl

theorem dropIdle_prefix (names : List String) : dropIdle names <+: names := by
  cases names with
  | nil => exact List.prefix_rfl
  | cons first rest =>
      rw [dropIdle_cons, List.cons_prefix_cons]
      exact ⟨rfl, List.rdropWhile_prefix isIdle rest⟩

theorem dropIdle_ne_nil {names : List String} (hne : names ≠ []) : dropIdle names ≠ [] := by
  obtain ⟨first, rest, rfl⟩ := List.exists_cons_of_ne_nil hne
  rw [dropIdle_cons]
  exact List.cons_ne_nil _ _

/-- What is left ends in a segment that is not idle, or is one segment. -/
theorem dropIdle_eq_append {names : List String} (hne : names ≠ []) :
    ∃ front last, dropIdle names = front ++ [last] ∧ (isIdle last = false ∨ front = []) := by
  obtain ⟨first, rest, rfl⟩ := List.exists_cons_of_ne_nil hne
  rw [dropIdle_cons]
  by_cases hrest : rest.rdropWhile isIdle = []
  · rw [hrest]
    exact ⟨[], first, rfl, Or.inr rfl⟩
  · have hlast := List.rdropWhile_last_not isIdle rest hrest
    refine ⟨first :: (rest.rdropWhile isIdle).dropLast, _, ?_, Or.inl (by simpa using hlast)⟩
    rw [List.cons_append, List.dropLast_append_getLast]

theorem exists_dropIdle_append (names : List String) :
    ∃ idle, names = dropIdle names ++ idle ∧ ∀ s ∈ idle, isIdle s = true := by
  cases names with
  | nil => exact ⟨[], rfl, by simp⟩
  | cons first rest =>
      refine ⟨rest.rtakeWhile isIdle, ?_, ?_⟩
      · rw [dropIdle_cons, List.cons_append, List.rdropWhile_append_rtakeWhile]
      · intro s hs
        exact List.mem_rtakeWhile_imp hs

/-! ## Paths above and below -/

theorem ne_empty_of_segments {path last : String} {front : List String}
    (hpath : segments path = front ++ [last]) (hlast : isIdle last = false) : path ≠ "" := by
  rintro rfl
  have hsegments : front ++ [last] = [""] := hpath.symm
  cases front with
  | nil =>
      rw [List.nil_append, List.singleton_inj] at hsegments
      rw [hsegments] at hlast
      cases hlast
  | cons first rest => simp at hsegments

/-- The path above has the segments in front of the last one, without idle ones at their end. -/
theorem parent?_of_segments {path last : String} {front : List String}
    (hpath : segments path = front ++ [last]) (hlast : isIdle last = false) (hfront : front ≠ []) :
    parent? path = some (ofSegments (dropIdle front)) := by
  obtain ⟨first, rest, rfl⟩ := List.exists_cons_of_ne_nil hfront
  have htrimmed : dropIdle (segments path) = first :: (rest ++ [last]) := by
    rw [hpath, List.cons_append, dropIdle_cons, List.rdropWhile_concat_neg]
    simp [hlast]
  have hrest : rest ++ [last] ≠ [] := by simp
  obtain ⟨second, others, hothers⟩ := List.exists_cons_of_ne_nil hrest
  rw [parent?, htrimmed, hothers]
  simp only
  rw [← hothers, List.dropLast_concat]

theorem parent?_of_segment {path last : String} (hpath : segments path = [last])
    (hlast : isIdle last = false) : parent? path = some "" := by
  have hname : last.isEmpty = false := by
    rw [isIdle, Bool.or_eq_false_iff] at hlast
    exact hlast.1
  simp [parent?, hpath, dropIdle, hname]

theorem dropIdle_front_prefix {path last : String} {front : List String}
    (hdropped : dropIdle (segments path) = front ++ [last]) : dropIdle front <+: segments path := by
  have hfront : front <+: dropIdle (segments path) := by
    rw [hdropped]
    exact List.prefix_append front [last]
  have hkept := dropIdle_prefix front
  have hwhole := dropIdle_prefix (segments path)
  exact hkept.trans (hfront.trans hwhole)

/-- In front of a single segment there is nothing; otherwise the path above is that of the segments
in front of the last one. -/
theorem exists_front_of_parent {path above : String} (habove : parent? path = some above) :
    ∃ front last, dropIdle (segments path) = front ++ [last] ∧
      (front = [] ∧ last ≠ "" ∧ above = "" ∨
        front ≠ [] ∧ above = ofSegments (dropIdle front)) := by
  rw [parent?] at habove
  split at habove
  · cases habove
  next first hdropped =>
    split_ifs at habove with hfirst
    refine ⟨[], first, hdropped, Or.inl ⟨rfl, by simpa using hfirst, ?_⟩⟩
    exact (Option.some.inj habove).symm
  next first rest hnotSingle hdropped =>
    have hrest : rest ≠ [] := by
      rintro rfl
      exact hnotSingle rfl
    refine ⟨first :: rest.dropLast, rest.getLast hrest, ?_, Or.inr ⟨List.cons_ne_nil _ _, ?_⟩⟩
    · rw [hdropped, List.cons_append, List.dropLast_append_getLast]
    · exact (Option.some.inj habove).symm

theorem join_of_relative {dir path : String} (hdir : dir ≠ "") (hpath : isAbsolute path = false) :
    join dir path =
      if dir.toList.getLast? = some '/' then dir ++ path else dir ++ "/" ++ path := by
  simp [join, hpath, hdir]

theorem length_dropIdle_le {path last : String} {front : List String}
    (hpath : segments path = front ++ [last]) (hlast : isIdle last = false) :
    (dropIdle front).length ≤ (segments ((parent? path).getD "")).length := by
  by_cases hfront : front = []
  · subst hfront
    exact Nat.zero_le _
  rw [parent?_of_segments hpath hlast hfront, Option.getD_some]
  by_cases hroot : dropIdle front = [""]
  · rw [hroot]
    decide
  · obtain ⟨idle, hidle, _⟩ := exists_dropIdle_append front
    have hwhole : segments path = dropIdle front ++ (idle ++ [last]) := by
      rw [← List.append_assoc, ← hidle, hpath]
    rw [segments_front hwhole (dropIdle_ne_nil hfront) hroot]

/-- Below a directory a relative path has its own segments behind those of the directory, without
the empty one that a slash at its end leaves. -/
theorem segments_join (dir : String) {path : String} (hpath : isAbsolute path = false) :
    ∃ front, segments (join dir path) = front ++ segments path ∧
      (segments dir = front ∨ segments dir = front ++ [""]) := by
  by_cases hdir : dir = ""
  · subst hdir
    refine ⟨[], ?_, Or.inr rfl⟩
    simp [join]
  · have hjoin := join_of_relative hdir hpath
    by_cases hslash : dir.toList.getLast? = some '/'
    · obtain ⟨chars, hchars⟩ := List.getLast?_eq_some_iff.mp hslash
      have hsplit : dir = String.ofList chars ++ "/" := by
        apply String.toList_inj.mp
        simp [hchars]
      refine ⟨segments (String.ofList chars), ?_, Or.inr ?_⟩
      · rw [hjoin, if_pos hslash, hsplit, segments_append_slash]
      · have hempty : segments (String.ofList chars ++ "/" ++ "") =
            segments (String.ofList chars) ++ segments "" := segments_append_slash _ _
        rw [String.append_empty, ← hsplit] at hempty
        exact hempty
    · refine ⟨segments dir, ?_, Or.inl rfl⟩
      rw [hjoin, if_neg hslash, segments_append_slash]

theorem isAbsolute_join (dir : String) {path : String} (hpath : isAbsolute path = false) :
    isAbsolute (join dir path) = isAbsolute dir := by
  by_cases hdir : dir = ""
  · subst hdir
    rw [join, hpath]
    exact hpath
  · rw [join_of_relative hdir hpath]
    split
    · exact isAbsolute_append hdir path
    · rw [String.append_assoc]
      exact isAbsolute_append hdir ("/" ++ path)

end Path

end StaticSite
