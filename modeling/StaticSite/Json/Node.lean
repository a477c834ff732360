import StaticSite.Json.Writer

/-!
# JSON as it stands in a text

A `Node` is what a reader meets when it goes through a JSON text from left to right. A
fault of the text stands at the place where it is met, so that whoever reads the node
meets the faults and the values in the order of the text. A value that is already there
is a node without faults.
-/

namespace StaticSite.Json

/-- Why a text is no JSON: a character that cannot stand where it does, or the end of
the text inside a value. -/
inductive Fault
  | malformed
  | truncated

/-- What kind of value is found, as messages tell it. -/
inductive Found
  | null
  | bool (b : Bool)
  | number (n : Number)
  | string (s : String)
  | sequence
  | map

/-- What follows the last item or member that could be told apart. -/
inductive Stop
  /-- The closing bracket. -/
  | closed
  /-- The end of the text. -/
  | cut
  /-- A character that is neither a comma nor the closing bracket. -/
  | junk
  /-- A comma, and then nothing that could be another item or member. -/
  | comma (fault : Fault)

/-- What stands where an object has a key. -/
inductive Key
  /-- A string; it may be readable only by someone who does not look into it. -/
  | text (name : Except Fault String)
  /-- A string that does not end; looking into it may meet another fault first. -/
  | broken (onRead : Fault)
  /-- Something else, as the first key. -/
  | stray

inductive Node
  | null
  | bool (b : Bool)
  /-- A number, unless it is out of range. -/
  | number (n : Except Fault Number)
  /-- A string, unless it has half a surrogate pair in it. -/
  | string (s : Except Fault String)
  | array (items : List Node) (stop : Stop)
  | object (members : List (Key × Node)) (stop : Stop)
  /-- A string that does not end. What is met depends on whether it is read or only
  skipped. -/
  | unended (onRead onSkip : Fault)
  /-- Something that is no value, or only the beginning of a number or a word. A number that
  breaks off is met differently by a reader and by who skips it. -/
  | broken (onRead onSkip : Fault)
  /-- The end of the text. -/
  | absent

def Stop.fault? : Stop → Option Fault
  | .closed => none
  | .cut => some .truncated
  | .junk => some .malformed
  | .comma fault => some fault

/-- Passes the end of an array or object. -/
def Stop.finish (stop : Stop) : Except Fault Unit :=
  match stop.fault? with
  | none => .ok ()
  | some fault => .error fault

/-- Reads a key as a string. -/
def Key.name : Key → Except Fault String
  | .text name => name
  | .broken onRead => .error onRead
  | .stray => .error .malformed

/-- What a reader who expects another kind of value finds. A number or a string is read to
its end first. -/
def Node.found : Node → Except Fault Found
  | .null => .ok .null
  | .bool b => .ok (.bool b)
  | .number n => n.map .number
  | .string s => s.map .string
  | .array _ _ => .ok .sequence
  | .object _ _ => .ok .map
  | .unended onRead _ => .error onRead
  | .broken onRead _ => .error onRead
  | .absent => .error .truncated

mutual

/-- Passes over a value without looking into its strings and numbers. -/
def Node.skip : Node → Except Fault Unit
  | .array items stop => do skipItems items; stop.finish
  | .object members stop => do skipMembers members; stop.finish
  | .unended _ onSkip => .error onSkip
  | .broken _ onSkip => .error onSkip
  | .absent => .error .truncated
  | .null | .bool _ | .number _ | .string _ => .ok ()

def skipItems : List Node → Except Fault Unit
  | [] => .ok ()
  | item :: rest => do item.skip; skipItems rest

def skipMembers : List (Key × Node) → Except Fault Unit
  | [] => .ok ()
  | (.text _, node) :: rest => do node.skip; skipMembers rest
  | (.broken _, node) :: _ => node.skip
  | (.stray, _) :: _ => .error .malformed

end

mutual

/-- A value as a node without faults. -/
def Node.ofValue : Value → Node
  | .null => .null
  | .bool b => .bool b
  | .number n => .number (.ok n)
  | .string s => .string (.ok s)
  | .array items => .array (nodesOfItems items) .closed
  | .object members => .object (nodesOfMembers members) .closed

def nodesOfItems : List Value → List Node
  | [] => []
  | item :: rest => Node.ofValue item :: nodesOfItems rest

def nodesOfMembers : List (String × Value) → List (Key × Node)
  | [] => []
  | (key, value) :: rest => (.text (.ok key), Node.ofValue value) :: nodesOfMembers rest

end

mutual

/-- How many arrays and objects stand inside one another. -/
def Node.height : Node → Nat
  | .array items _ => heightOfItems items + 1
  | .object members _ => heightOfMembers members + 1
  | _ => 0

def heightOfItems : List Node → Nat
  | [] => 0
  | item :: rest => max item.height (heightOfItems rest)

def heightOfMembers : List (Key × Node) → Nat
  | [] => 0
  | (_, node) :: rest => max node.height (heightOfMembers rest)

end

end StaticSite.Json
