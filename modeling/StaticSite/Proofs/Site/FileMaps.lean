import Mathlib.Tactic.SplitIfs
import StaticSite.Site.Export

/-!
# Maps of files

Inserting a file keeps the files of a map in ascending order of their paths, so every path is
there once, and the first file with some property is the one with the smallest path. What a map
holds under a path is what was inserted there last.
-/

namespace StaticSite

theorem FileMap.mem_insert {path content : String} {files : FileMap} {a : String × String}
    (ha : a ∈ files.insert path content) : a = (path, content) ∨ a ∈ files := by
  induction files with
  | nil =>
      rw [insert, List.mem_singleton] at ha
      exact Or.inl ha
  | cons first rest ih =>
      obtain ⟨p, c⟩ := first
      rw [insert] at ha
      split_ifs at ha
      · rcases List.mem_cons.mp ha with hnew | hrest
        · exact Or.inl hnew
        · exact Or.inr (List.mem_cons_of_mem _ hrest)
      · exact List.mem_cons.mp ha
      · rcases List.mem_cons.mp ha with hfirst | hrest
        · exact Or.inr (List.mem_cons.mpr (Or.inl hfirst))
        · exact (ih hrest).imp id (List.mem_cons_of_mem _)

theorem FileMap.mem_insertAll {files : FileMap} {entries : List (String × String)}
    {a : String × String} (ha : a ∈ files.insertAll entries) : a ∈ entries ∨ a ∈ files := by
  induction entries generalizing files with
  | nil => exact Or.inr ha
  | cons entry rest ih =>
      rcases ih ha with hrest | hfiles
      · exact Or.inl (List.mem_cons_of_mem entry hrest)
      · rcases FileMap.mem_insert hfiles with hentry | hold
        · exact Or.inl (List.mem_cons.mpr (Or.inl hentry))
        · exact Or.inr hold

def FileMap.Ascending (files : FileMap) : Prop :=
  files.Pairwise fun a b => a.1 < b.1

theorem FileMap.Ascending.insert {files : FileMap} (h : files.Ascending)
    (path content : String) : (files.insert path content).Ascending := by
  induction files with
  | nil => exact List.pairwise_singleton _ _
  | cons first rest ih =>
      obtain ⟨p, c⟩ := first
      obtain ⟨hfirst, hrest⟩ := List.pairwise_cons.mp h
      rw [FileMap.insert]
      split_ifs with hsame hbefore
      · subst hsame
        exact List.pairwise_cons.mpr ⟨hfirst, hrest⟩
      · refine List.pairwise_cons.mpr ⟨?_, h⟩
        intro b hb
        rcases List.mem_cons.mp hb with rfl | hb
        · exact hbefore
        · exact String.lt_trans hbefore (hfirst b hb)
      · refine List.pairwise_cons.mpr ⟨?_, ih hrest⟩
        intro b hb
        rcases FileMap.mem_insert hb with rfl | hb
        · exact Std.lt_of_le_of_ne (String.not_lt.mp hbefore) (Ne.symm hsame)
        · exact hfirst b hb

theorem FileMap.Ascending.insertAll {files : FileMap} (h : files.Ascending)
    (entries : List (String × String)) : (files.insertAll entries).Ascending := by
  induction entries generalizing files with
  | nil => exact h
  | cons entry rest ih => exact ih (h.insert entry.1 entry.2)

theorem FileMap.ascending_ofList (entries : List (String × String)) :
    (FileMap.ofList entries).Ascending :=
  FileMap.Ascending.insertAll List.Pairwise.nil entries

/-! ## What a map holds -/

theorem FileMap.get?_cons (p c : String) (rest : FileMap) (key : String) :
    FileMap.get? ((p, c) :: rest) key = if key = p then some c else rest.get? key := by
  rw [get?, List.lookup_cons, get?]
  by_cases hkey : key = p
  · rw [if_pos hkey, beq_iff_eq.mpr hkey]
  · rw [if_neg hkey, beq_eq_false_iff_ne.mpr hkey]

theorem FileMap.get?_insert (files : FileMap) (path content key : String) :
    (files.insert path content).get? key =
      if key = path then some content else files.get? key := by
  induction files with
  | nil => exact FileMap.get?_cons path content [] key
  | cons first rest ih =>
      obtain ⟨p, c⟩ := first
      rw [insert]
      by_cases hsame : path = p
      · rw [if_pos hsame, FileMap.get?_cons, FileMap.get?_cons, hsame]
        split_ifs <;> rfl
      · rw [if_neg hsame]
        by_cases hbefore : path < p
        · rw [if_pos hbefore, FileMap.get?_cons]
        · rw [if_neg hbefore, FileMap.get?_cons, ih, FileMap.get?_cons]
          by_cases hkey : key = p
          · rw [if_pos hkey, if_neg fun h => hsame (h.symm.trans hkey), if_pos hkey]
          · rw [if_neg hkey, if_neg hkey]

theorem FileMap.mem_keys_insert {path content key : String} {files : FileMap} :
    key ∈ (files.insert path content).map (·.1) ↔ key = path ∨ key ∈ files.map (·.1) := by
  induction files with
  | nil => simp [insert]
  | cons first rest ih =>
      obtain ⟨p, c⟩ := first
      rw [insert]
      split_ifs with hsame hbefore
      · simp [hsame]
      · simp
      · rw [List.map_cons, List.mem_cons, ih, List.map_cons, List.mem_cons]
        exact or_left_comm

theorem FileMap.mem_keys_insertAll {entries : List (String × String)} {key : String}
    {files : FileMap} :
    key ∈ (files.insertAll entries).map (·.1) ↔
      key ∈ entries.map (·.1) ∨ key ∈ files.map (·.1) := by
  induction entries generalizing files with
  | nil => simp [insertAll]
  | cons entry rest ih =>
      change key ∈ ((files.insert entry.1 entry.2).insertAll rest).map (·.1) ↔ _
      rw [ih, FileMap.mem_keys_insert, List.map_cons, List.mem_cons, or_assoc]
      exact or_left_comm

theorem FileMap.insertAll_append (files : FileMap) (a b : List (String × String)) :
    files.insertAll (a ++ b) = (files.insertAll a).insertAll b := by
  exact List.foldl_append

theorem FileMap.get?_insertAll_of_not_mem {entries : List (String × String)} {key : String}
    (hkey : key ∉ entries.map (·.1)) (files : FileMap) :
    (files.insertAll entries).get? key = files.get? key := by
  induction entries generalizing files with
  | nil => rfl
  | cons entry rest ih =>
      rw [List.map_cons, List.mem_cons, not_or] at hkey
      change ((files.insert entry.1 entry.2).insertAll rest).get? key = _
      rw [ih hkey.2, FileMap.get?_insert, if_neg hkey.1]

/-- An entry that no later one has the path of is kept. -/
theorem FileMap.get?_insertAll_of_last {before after : List (String × String)}
    {path content : String} (hafter : path ∉ after.map (·.1)) (files : FileMap) :
    (files.insertAll (before ++ (path, content) :: after)).get? path = some content := by
  rw [FileMap.insertAll_append]
  change (((files.insertAll before).insert path content).insertAll after).get? path = _
  rw [FileMap.get?_insertAll_of_not_mem hafter, FileMap.get?_insert, if_pos rfl]

theorem Project.export_ascending (options : Options) (project : Project) :
    (project.export options).Ascending :=
  (FileMap.ascending_ofList project.scaffold).insertAll (project.pageFiles options)

end StaticSite
