import StaticSite.Disk.Basic
import StaticSite.Proofs.Disk.Segments

/-!
# Walks over a disk

A walk over the segments of a path comes by a list of locations, which the segments alone decide.
It arrives if all of them but the last are directories. If none of them is a file, all that can
stop it is a directory that is missing.
-/

namespace StaticSite

/-! ## Stops -/

def Location.enter (location : Location) (segment : String) : Location :=
  if Path.isIdle segment then location
  else if segment = ".." then location.dropLast
  else location ++ [segment]

def Location.follow (location : Location) (segments : List String) : Location :=
  segments.foldl Location.enter location

/-- The locations that a walk comes by, its two ends included. -/
def Location.stops (location : Location) : List String → List Location
  | [] => [location]
  | segment :: rest => location :: Location.stops (location.enter segment) rest

namespace Location

@[simp] theorem follow_nil (location : Location) : location.follow [] = location := rfl

@[simp] theorem follow_cons (location : Location) (segment : String) (rest : List String) :
    location.follow (segment :: rest) = (location.enter segment).follow rest := rfl

@[simp] theorem follow_append (location : Location) (a b : List String) :
    location.follow (a ++ b) = (location.follow a).follow b :=
  List.foldl_append

theorem start_mem_stops (location : Location) (segments : List String) :
    location ∈ location.stops segments := by
  cases segments <;> simp [stops]

theorem follow_mem_stops (location : Location) (segments : List String) :
    location.follow segments ∈ location.stops segments := by
  induction segments generalizing location with
  | nil => simp [stops]
  | cons segment rest ih =>
      rw [follow_cons, stops]
      exact List.mem_cons_of_mem location (ih (location.enter segment))

theorem mem_stops_append {location stop : Location} {a b : List String} :
    stop ∈ location.stops (a ++ b) ↔
      stop ∈ location.stops a ∨ stop ∈ (location.follow a).stops b := by
  induction a generalizing location with
  | nil =>
      have hstart : location ∈ location.stops b := location.start_mem_stops b
      simp only [List.nil_append, stops, List.mem_singleton, follow_nil]
      constructor
      · exact Or.inr
      · rintro (rfl | hstop)
        · exact hstart
        · exact hstop
  | cons segment rest ih =>
      simp only [List.cons_append, stops, List.mem_cons, follow_cons, ih, or_assoc]

theorem mem_stops_snoc {location stop : Location} {front : List String} {last : String} :
    stop ∈ location.stops (front ++ [last]) ↔
      stop ∈ location.stops front ∨ stop = location.follow (front ++ [last]) := by
  have hgoal : location.follow (front ++ [last]) = (location.follow front).enter last := by
    simp
  rw [mem_stops_append, hgoal, stops, stops, List.mem_cons, List.mem_singleton]
  constructor
  · rintro (hfront | rfl | hlast)
    · exact Or.inl hfront
    · exact Or.inl (location.follow_mem_stops front)
    · exact Or.inr hlast
  · rintro (hfront | hlast)
    · exact Or.inl hfront
    · exact Or.inr (Or.inr hlast)

theorem mem_stops_of_prefix {location stop : Location} {a b : List String} (hab : a <+: b)
    (hstop : stop ∈ location.stops a) : stop ∈ location.stops b := by
  obtain ⟨rest, rfl⟩ := hab
  exact mem_stops_append.mpr (Or.inl hstop)

theorem enter_idle (location : Location) {segment : String} (hidle : Path.isIdle segment = true) :
    location.enter segment = location := by
  rw [enter, if_pos hidle]

theorem mem_stops_idle {location stop : Location} {segments : List String}
    (hidle : ∀ s ∈ segments, Path.isIdle s = true) :
    stop ∈ location.stops segments ↔ stop = location := by
  induction segments with
  | nil => simp [stops]
  | cons segment rest ih =>
      have hfirst : Path.isIdle segment = true := hidle segment List.mem_cons_self
      have hrest := ih fun s hs => hidle s (List.mem_cons_of_mem segment hs)
      simp [stops, enter_idle location hfirst, hrest]

theorem follow_idle (location : Location) {segments : List String}
    (hidle : ∀ s ∈ segments, Path.isIdle s = true) : location.follow segments = location :=
  (mem_stops_idle hidle).mp (location.follow_mem_stops segments)

@[simp] theorem follow_dropIdle (location : Location) (segments : List String) :
    location.follow (Path.dropIdle segments) = location.follow segments := by
  obtain ⟨idle, hsplit, hidle⟩ := Path.exists_dropIdle_append segments
  conv_rhs => rw [hsplit, follow_append, follow_idle _ hidle]

theorem mem_stops_dropIdle {location stop : Location} {segments : List String} :
    stop ∈ location.stops (Path.dropIdle segments) ↔ stop ∈ location.stops segments := by
  obtain ⟨idle, hsplit, hidle⟩ := Path.exists_dropIdle_append segments
  have hsame : stop ∈ location.stops segments ↔
      stop ∈ location.stops (Path.dropIdle segments ++ idle) := by
    rw [← hsplit]
  rw [hsame, mem_stops_append, mem_stops_idle hidle]
  constructor
  · exact Or.inl
  · rintro (hstop | rfl)
    · exact hstop
    · exact location.follow_mem_stops _

end Location

namespace Disk

/-! ## Entries -/

theorem lookup_putEntry (location other : Location) (entry : Entry)
    (entries : List (Location × Entry)) :
    (putEntry location entry entries).lookup other =
      if other = location then some entry else entries.lookup other := by
  induction entries with
  | nil =>
      by_cases hother : other = location
      · simp [putEntry, hother]
      · have hne : (other == location) = false := by simpa using hother
        simp [putEntry, List.lookup_cons, hne, hother]
  | cons first rest ih =>
      obtain ⟨l, e⟩ := first
      by_cases hl : l = location
      · subst hl
        by_cases hother : other = l
        · simp [putEntry, hother]
        · have hne : (other == l) = false := by simpa using hother
          simp [putEntry, List.lookup_cons, hne, hother]
      · by_cases hother : other = l
        · subst hother
          simp [putEntry, hl]
        · have hne : (other == l) = false := by simpa using hother
          simp [putEntry, hl, List.lookup_cons, hne, ih]

theorem at?_root (disk : Disk) : disk.at? [] = some .directory := rfl

theorem at?_put (disk : Disk) {location : Location} (hlocation : location ≠ []) (entry : Entry)
    (other : Location) :
    (disk.put location entry).at? other =
      if other = location then some entry else disk.at? other := by
  by_cases hroot : other = []
  · subst hroot
    rw [at?_root, at?_root, if_neg (Ne.symm hlocation)]
  · have hne : other.isEmpty = false := by simpa using hroot
    simp [at?, hne, put, lookup_putEntry]

/-! ## Walking -/

def Paved (disk : Disk) (location : Location) (segments : List String) : Prop :=
  ∀ stop ∈ location.stops segments, disk.at? stop = some .directory

def Clears (disk : Disk) (location : Location) (segments : List String) : Prop :=
  ∀ stop ∈ location.stops segments, ∀ content, disk.at? stop ≠ some (.file content)

variable {disk : Disk} {location : Location}

theorem Clears.none_or_directory {segments : List String} (h : disk.Clears location segments)
    {stop : Location} (hstop : stop ∈ location.stops segments) :
    disk.at? stop = none ∨ disk.at? stop = some .directory := by
  cases hat : disk.at? stop with
  | none => exact Or.inl rfl
  | some entry =>
      cases entry with
      | file content => exact absurd hat (h stop hstop content)
      | directory => exact Or.inr rfl

theorem Paved.nil (hat : disk.at? location = some .directory) : disk.Paved location [] := by
  intro stop hstop
  rw [Location.stops, List.mem_singleton] at hstop
  rw [hstop, hat]

theorem Paved.cons (hat : disk.at? location = some .directory) {segment : String}
    {rest : List String} (hrest : disk.Paved (location.enter segment) rest) :
    disk.Paved location (segment :: rest) := by
  intro stop hstop
  rcases List.mem_cons.mp hstop with rfl | hbehind
  · exact hat
  · exact hrest stop hbehind

theorem Paved.snoc {front : List String} (h : disk.Paved location front) {last : String}
    (hat : disk.at? (location.follow (front ++ [last])) = some .directory) :
    disk.Paved location (front ++ [last]) := by
  intro stop hstop
  rcases Location.mem_stops_snoc.mp hstop with hfront | rfl
  · exact h stop hfront
  · exact hat

theorem clears_append {a b : List String} :
    disk.Clears location (a ++ b) ↔
      disk.Clears location a ∧ disk.Clears (location.follow a) b := by
  simp only [Clears, Location.mem_stops_append, or_imp, forall_and]

theorem paved_dropIdle {segments : List String} :
    disk.Paved location (Path.dropIdle segments) ↔ disk.Paved location segments := by
  simp only [Paved, Location.mem_stops_dropIdle]

theorem clears_dropIdle {segments : List String} :
    disk.Clears location (Path.dropIdle segments) ↔ disk.Clears location segments := by
  simp only [Clears, Location.mem_stops_dropIdle]

theorem walk_append (disk : Disk) (location : Location) (a b : List String) :
    disk.walk location (a ++ b) = (disk.walk location a).bind (disk.walk · b) := by
  induction a generalizing location with
  | nil => rfl
  | cons segment rest ih =>
      rw [List.cons_append, walk, walk]
      cases hat : disk.at? location with
      | none => rfl
      | some entry =>
          cases entry with
          | file content => rfl
          | directory =>
              simp only [ih]
              split_ifs <;> rfl

theorem walk_cons_of_none (hat : disk.at? location = none) (segment : String)
    (rest : List String) : disk.walk location (segment :: rest) = .error .notFound := by
  rw [walk, hat]

theorem walk_cons_of_directory (hat : disk.at? location = some .directory) {segment : String}
    (hsize : segment.utf8ByteSize ≤ longestName) (rest : List String) :
    disk.walk location (segment :: rest) = disk.walk (location.enter segment) rest := by
  have hshort : ¬longestName < segment.utf8ByteSize := Nat.not_lt.mpr hsize
  rw [walk, hat, Location.enter]
  split_ifs <;> rfl

theorem Paved.walk {segments : List String} (h : disk.Paved location segments)
    (hsize : ∀ s ∈ segments, s.utf8ByteSize ≤ longestName) :
    disk.walk location segments = .ok (location.follow segments) := by
  induction segments generalizing location with
  | nil => rfl
  | cons segment rest ih =>
      have hat : disk.at? location = some .directory :=
        h location (location.start_mem_stops _)
      have hrest : disk.Paved (location.enter segment) rest := by
        intro stop hstop
        exact h stop (List.mem_cons_of_mem location hstop)
      rw [walk_cons_of_directory hat (hsize segment List.mem_cons_self), Location.follow_cons]
      exact ih hrest fun s hs => hsize s (List.mem_cons_of_mem segment hs)

theorem Paved.walk_snoc {front : List String} (h : disk.Paved location front) {last : String}
    (hsize : ∀ s ∈ front ++ [last], s.utf8ByteSize ≤ longestName) :
    disk.walk location (front ++ [last]) = .ok (location.follow (front ++ [last])) := by
  have hfront := h.walk fun s hs => hsize s (List.mem_append_left [last] hs)
  have hat : disk.at? (location.follow front) = some .directory :=
    h _ (location.follow_mem_stops front)
  have hlast : last.utf8ByteSize ≤ longestName := hsize last (by simp)
  rw [walk_append, hfront, Location.follow_append]
  exact walk_cons_of_directory hat hlast []

/-- Where no stop is a file, a walk beyond them is over directories, or misses one. -/
theorem Clears.paved_or_notFound {front : List String} (h : disk.Clears location front)
    (hsize : ∀ s ∈ front, s.utf8ByteSize ≤ longestName) :
    disk.Paved location front ∨
      ∀ last, disk.walk location (front ++ [last]) = .error .notFound := by
  induction front generalizing location with
  | nil =>
      rcases h.none_or_directory (location.start_mem_stops []) with hat | hat
      · exact Or.inr fun last => walk_cons_of_none hat last []
      · exact Or.inl (Paved.nil hat)
  | cons segment rest ih =>
      rcases h.none_or_directory (location.start_mem_stops (segment :: rest)) with hat | hat
      · exact Or.inr fun last => walk_cons_of_none hat segment (rest ++ [last])
      have hrest : disk.Clears (location.enter segment) rest := by
        intro stop hstop
        exact h stop (List.mem_cons_of_mem location hstop)
      rcases ih hrest fun s hs => hsize s (List.mem_cons_of_mem segment hs) with
        hpaved | hmissing
      · exact Or.inl (Paved.cons hat hpaved)
      · refine Or.inr fun last => ?_
        rw [List.cons_append, walk_cons_of_directory hat (hsize segment List.mem_cons_self)]
        exact hmissing last

/-! ## Walks that arrive -/

variable {later : Disk} {goal : Location}

theorem utf8ByteSize_of_isIdle {segment : String} (hidle : Path.isIdle segment = true) :
    segment.utf8ByteSize ≤ longestName := by
  rw [Path.isIdle, Bool.or_eq_true, String.isEmpty_iff, decide_eq_true_iff] at hidle
  rcases hidle with rfl | rfl <;> decide

theorem walk_cons_eq_ok_iff {segment : String} {rest : List String} :
    disk.walk location (segment :: rest) = .ok goal ↔
      disk.at? location = some .directory ∧ segment.utf8ByteSize ≤ longestName ∧
        disk.walk (location.enter segment) rest = .ok goal := by
  constructor
  · intro hwalk
    rw [walk] at hwalk
    split at hwalk
    · cases hwalk
    · cases hwalk
    next hat =>
      refine ⟨hat, ?_⟩
      rw [Location.enter]
      split_ifs at hwalk ⊢ with hidle hup hlong
      · exact ⟨utf8ByteSize_of_isIdle hidle, hwalk⟩
      · subst hup
        exact ⟨by decide, hwalk⟩
      · exact ⟨Nat.not_lt.mp hlong, hwalk⟩
  · rintro ⟨hat, hsize, hwalk⟩
    rw [walk_cons_of_directory hat hsize, hwalk]

theorem follow_of_walk {segments : List String} (hwalk : disk.walk location segments = .ok goal) :
    location.follow segments = goal := by
  induction segments generalizing location with
  | nil =>
      rw [walk, Except.ok.injEq] at hwalk
      exact hwalk
  | cons segment rest ih =>
      obtain ⟨_, _, hrest⟩ := walk_cons_eq_ok_iff.mp hwalk
      exact ih hrest

/-- A walk arrives wherever else the same directories stand. -/
theorem walk_of_directories
    (hdirectories : ∀ l, disk.at? l = some .directory → later.at? l = some .directory)
    {segments : List String} (hwalk : disk.walk location segments = .ok goal) :
    later.walk location segments = .ok goal := by
  induction segments generalizing location with
  | nil => exact hwalk
  | cons segment rest ih =>
      obtain ⟨hat, hsize, hrest⟩ := walk_cons_eq_ok_iff.mp hwalk
      exact walk_cons_eq_ok_iff.mpr ⟨hdirectories location hat, hsize, ih hrest⟩

theorem directory_of_walk {a b : List String} (hb : b ≠ [])
    (hwalk : disk.walk location (a ++ b) = .ok goal) :
    disk.at? (location.follow a) = some .directory := by
  obtain ⟨segment, rest, rfl⟩ := List.exists_cons_of_ne_nil hb
  rw [walk_append] at hwalk
  cases hfront : disk.walk location a with
  | error e =>
      rw [hfront] at hwalk
      cases hwalk
  | ok front =>
      rw [hfront] at hwalk
      rw [follow_of_walk hfront]
      exact (walk_cons_eq_ok_iff.mp hwalk).1

end Disk

end StaticSite
