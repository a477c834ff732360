/-!
# TOML tables

Tables are filled key by key. How a table came to be decides whether it can be opened or
extended again; whatever would define something twice is refused.
-/

namespace StaticSite.Toml

/-- How a table came to be. -/
inductive Origin
  /-- By its own header. -/
  | header
  /-- On the way to the table of a header. -/
  | implied
  /-- By a dotted key. -/
  | dotted
  /-- Between braces. -/
  | inline
  deriving DecidableEq

inductive Value
  | string (s : String)
  | bool (b : Bool)
  /-- A number, or what has only the form of one. -/
  | number (hasValue : Bool)
  /-- A date or a time. -/
  | moment
  | array (items : List Value)
  | table (origin : Origin) (entries : List (String × Value))
  /-- Tables under one header in double brackets. -/
  | tables (elements : List Value)

abbrev Entries := List (String × Value)

mutual

/-- Whether every number in it has a value. -/
def Value.isSound : Value → Bool
  | .number hasValue => hasValue
  | .array items => itemsSound items
  | .table _ entries => entriesSound entries
  | .tables elements => itemsSound elements
  | .string _ | .bool _ | .moment => true

def itemsSound : List Value → Bool
  | [] => true
  | item :: rest => item.isSound && itemsSound rest

def entriesSound : List (String × Value) → Bool
  | [] => true
  | (_, value) :: rest => value.isSound && entriesSound rest

end

def Entries.replace (key : String) (value : Value) (entries : Entries) : Entries :=
  entries.map fun (k, v) => if k = key then (k, value) else (k, v)

/-- Changes the entries of a table, for better or not at all. -/
abbrev Change := Origin → Entries → Option Entries

/-- Takes a change to the table at some keys, making the tables on the way. Dotted keys
only pass tables without a header. -/
def descend (dotted : Bool) (change : Change) : List String → Change
  | [] => change
  | key :: keys => fun _ entries =>
    match entries.lookup key with
    | none =>
      let origin := if dotted then Origin.dotted else .implied
      (descend dotted change keys origin []).map fun inner =>
        entries ++ [(key, .table origin inner)]
    | some (.table origin inner) =>
      if origin = .inline || (dotted && origin = .header) then none
      else
        (descend dotted change keys origin inner).map fun inner =>
          entries.replace key (.table origin inner)
    | some (.tables elements) =>
      match elements.getLast? with
      | some (.table origin inner) =>
        (descend dotted change keys origin inner).map fun inner =>
          entries.replace key (.tables (elements.dropLast ++ [.table origin inner]))
      | _ => none
    | some _ => none

/-- Puts a value under a key. `below` tells that dotted keys led here, and they only lead
to tables of their own. -/
def insertValue (below : Bool) (key : String) (value : Value) : Change := fun origin entries =>
  if decide (origin = .dotted) != below then none
  else if (entries.lookup key).isSome then none
  else some (entries ++ [(key, value)])

/-- Puts a value under a dotted key. -/
def insertDotted (keys : List String) (value : Value) : Change :=
  match keys.getLast? with
  | none => fun _ _ => none
  | some key => descend true (insertValue (1 < keys.length) key value) keys.dropLast

/-- Opens a table for its header. -/
def openTable (key : String) : Change := fun _ entries =>
  match entries.lookup key with
  | none => some (entries ++ [(key, .table .header [])])
  | some (.table .implied inner) => some (entries.replace key (.table .header inner))
  | some _ => none

/-- Opens another table for a header in double brackets. -/
def openElement (key : String) : Change := fun _ entries =>
  match entries.lookup key with
  | none => some (entries ++ [(key, .tables [.table .header []])])
  | some (.tables elements) =>
    some (entries.replace key (.tables (elements ++ [.table .header []])))
  | some _ => none

/-- Opens what a header names. -/
def openHeader (element : Bool) (keys : List String) : Change :=
  match keys.getLast? with
  | none => fun _ _ => none
  | some key => descend false (if element then openElement key else openTable key) keys.dropLast

end StaticSite.Toml
