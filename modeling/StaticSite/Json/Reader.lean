import StaticSite.Json.Scan
import StaticSite.Text.Quoted

/-!
# Reading typed values

A `Reader` takes a node and gives a value of some type or the first problem that it
meets. The same readers serve texts and values that are already there; they differ in
what is said about surplus items and about what cannot be the name of a choice, and a
text may open only so many arrays and objects inside one another.
-/

namespace StaticSite.Json

/-- A value of the wrong shape. -/
inductive ShapeError
  | invalidType (found : Found) (expected : String)
  | invalidValue (found : Found) (expected : String)
  | invalidLength (length : Nat) (expected : String)
  | missingField (name : String)
  | duplicateField (name : String)
  | unknownVariant (name : String) (variants : List String)

inductive ReadError
  | fault (fault : Fault)
  | shape (error : ShapeError)

def backquoted (s : String) : String :=
  "\x60" ++ s ++ "\x60"

def Found.describe : Found → String
  | .null => "null"
  | .bool b => "boolean " ++ backquoted (if b then "true" else "false")
  | .number (.integer n) => "integer " ++ backquoted (toString n)
  | .number (.float x) => "floating point " ++ backquoted (Decimal.tagged x)
  | .string s => "string " ++ Text.quoted s
  | .sequence => "sequence"
  | .map => "map"

def ShapeError.message : ShapeError → String
  | .invalidType found expected => "invalid type: " ++ found.describe ++ ", expected " ++ expected
  | .invalidValue found expected =>
    "invalid value: " ++ found.describe ++ ", expected " ++ expected
  | .invalidLength length expected =>
    "invalid length " ++ toString length ++ ", expected " ++ expected
  | .missingField name => "missing field " ++ backquoted name
  | .duplicateField name => "duplicate field " ++ backquoted name
  | .unknownVariant name variants =>
    "unknown variant " ++ backquoted name ++ ", expected one of " ++
      String.intercalate ", " (variants.map backquoted)

/-- Where a node comes from. -/
inductive Source
  | text
  | value
  deriving DecidableEq

/-- Reads a node, with so many arrays and objects that may still be opened. -/
abbrev Reader (α : Type) := (budget : Nat) → Node → Except ReadError α

def liftFault {α : Type} : Except Fault α → Except ReadError α
  | .ok a => .ok a
  | .error fault => .error (.fault fault)

def mismatch {α : Type} (node : Node) (expected : String) : Except ReadError α :=
  match node.found with
  | .ok found => .error (.shape (.invalidType found expected))
  | .error fault => .error (.fault fault)

/-! ## Plain values -/

def readString : Reader String := fun _ node =>
  match node with
  | .string s => liftFault s
  | node => mismatch node "a string"

def readBool : Reader Bool := fun _ node =>
  match node with
  | .bool b => .ok b
  | node => mismatch node "a boolean"

def readFloat : Reader Float := fun _ node =>
  match node with
  | .number n => do return (← liftFault n).toFloat
  | node => mismatch node "f64"

/-- A port number of the network. -/
def readPort : Reader Nat := fun _ node =>
  match node with
  | .number n => do
    match ← liftFault n with
    | .integer i =>
      if 0 ≤ i && i < 65536 then .ok i.toNat
      else .error (.shape (.invalidValue (.number (.integer i)) "u16"))
    | .float x => .error (.shape (.invalidType (.number (.float x)) "u16"))
  | node => mismatch node "u16"

/-- Null stands for an absent value. -/
def readOption {α : Type} (reader : Reader α) : Reader (Option α) := fun budget node =>
  match node with
  | .null => .ok none
  | node => (reader budget node).map some

/-! ## Arrays and open maps -/

/-- What is met when one more array or object is opened than allowed. -/
def tooDeep {α : Type} : Except ReadError α :=
  .error (.fault .malformed)

def readList {α : Type} (reader : Reader α) : Reader (List α) := fun budget node =>
  match node, budget with
  | .array _ _, 0 => tooDeep
  | .array items stop, budget + 1 => do
    let read ← items.mapM (reader budget)
    liftFault stop.finish
    return read
  | node, _ => mismatch node "a sequence"

/-- The members of an open map, read one after the other into those read so far. -/
def readMembersInto (reader : Node → Except ReadError Value) :
    Members → List (Key × Node) → Except ReadError Members
  | members, [] => .ok members
  | members, (key, node) :: rest => do
    let name ← liftFault key.name
    let value ← reader node
    readMembersInto reader (members.insert name value) rest

/-- Any value. -/
def readValue : Reader Value
  | _, .null => .ok .null
  | _, .bool b => .ok (.bool b)
  | _, .number n => return .number (← liftFault n)
  | _, .string s => return .string (← liftFault s)
  | 0, .array _ _ => tooDeep
  | 0, .object _ _ => tooDeep
  | budget + 1, .array items stop => do
    let read ← items.mapM (readValue budget)
    liftFault stop.finish
    return .array read
  | budget + 1, .object members stop => do
    let read ← readMembersInto (readValue budget) [] members
    liftFault stop.finish
    return .object read
  | _, .unended onRead _ => .error (.fault onRead)
  | _, .broken onRead _ => .error (.fault onRead)
  | _, .absent => .error (.fault .truncated)

/-- An object with whatever keys. -/
def readMap : Reader Members := fun budget node =>
  match node, budget with
  | .object _ _, 0 => tooDeep
  | .object members stop, budget + 1 => do
    let read ← readMembersInto (readValue budget) [] members
    liftFault stop.finish
    return read
  | node, _ => mismatch node "a map"

/-! ## Choices -/

def findChoice {α : Type} (choices : List (String × α)) (name : String) : Except ReadError α :=
  match choices.lookup name with
  | some choice => .ok choice
  | none => .error (.shape (.unknownVariant name (choices.map (·.1))))

def readUnit : Reader Unit := fun _ node =>
  match node with
  | .null => .ok ()
  | node => mismatch node "unit"

/-- After the only member of an object nothing but its end may follow. -/
def endOfChoice (rest : List (Key × Node)) : Stop → Except ReadError Unit
  | .closed => if rest.isEmpty then .ok () else .error (.fault .malformed)
  | .cut => .error (.fault (if rest.isEmpty then .truncated else .malformed))
  | .junk | .comma _ => .error (.fault .malformed)

/-- One of some names: as a string, or as the only key of an object, over null. -/
def readChoice {α : Type} (choices : List (String × α)) (source : Source) : Reader α :=
  fun budget node =>
    match source, node, budget with
    | _, .string name, _ => do findChoice choices (← liftFault name)
    | .value, .object [(key, payload)] _, _ => do
      let choice ← findChoice choices (← liftFault key.name)
      readUnit budget payload
      return choice
    | .value, .object _ _, _ => .error (.shape (.invalidValue .map "map with a single key"))
    | .value, node, _ => mismatch node "string or map"
    | .text, .object _ _, 0 => tooDeep
    | .text, .object ((key, payload) :: rest) stop, budget + 1 => do
      let choice ← findChoice choices (← liftFault key.name)
      readUnit budget payload
      endOfChoice rest stop
      return choice
    | .text, .object [] .cut, _ => .error (.fault .truncated)
    | .text, .unended onRead _, _ => .error (.fault onRead)
    | .text, .absent, _ => .error (.fault .truncated)
    | .text, _, _ => .error (.fault .malformed)

/-! ## Records -/

/-- One field of a record, and how it is read into what has been read so far. -/
structure RecordField (σ : Type) where
  key : String
  required : Bool
  read : Nat → Node → σ → Except ReadError σ

/-- A field that may be missing. -/
def RecordField.optional {σ α : Type} (key : String) (reader : Reader α) (set : α → σ → σ) :
    RecordField σ where
  key
  required := false
  read budget node s := return set (← reader budget node) s

def RecordField.needed {σ α : Type} (key : String) (reader : Reader α) (set : α → σ → σ) :
    RecordField σ :=
  { RecordField.optional key reader set with required := true }

/-- The first field that is needed and was not there. -/
def checkMissing {σ : Type} (fields : List (RecordField σ)) (seen : List String) :
    Except ReadError Unit :=
  match fields.find? fun field => field.required && !seen.contains field.key with
  | some field => .error (.shape (.missingField field.key))
  | none => .ok ()

/-- The members of an object, in the order of the text. Those with unknown keys are passed
over. -/
def readFields {σ : Type} (fields : List (RecordField σ)) (budget : Nat) :
    List String → σ → List (Key × Node) → Except ReadError (List String × σ)
  | seen, s, [] => .ok (seen, s)
  | seen, s, (key, node) :: rest => do
    let name ← liftFault key.name
    match fields.find? (·.key = name) with
    | none =>
      liftFault node.skip
      readFields fields budget seen s rest
    | some field =>
      if seen.contains name then .error (.shape (.duplicateField name))
      else
        let s ← field.read budget node s
        readFields fields budget (name :: seen) s rest

/-- Fields by their position. Only trailing fields that are not needed may be missing. -/
def readPositions {σ : Type} (budget : Nat) (expected : String) (stop : Stop) :
    (position : Nat) → List (RecordField σ) → σ → List Node → Except ReadError (σ × List Node)
  | _, [], s, rest => .ok (s, rest)
  | position, field :: fields, s, item :: rest => do
    let s ← field.read budget item s
    readPositions budget expected stop (position + 1) fields s rest
  | position, field :: fields, s, [] => do
    liftFault stop.finish
    if field.required then .error (.shape (.invalidLength position expected))
    else readPositions budget expected stop (position + 1) fields s []

/-- No item may follow the last field. -/
def endOfPositions (source : Source) (total : Nat) (rest : List Node) (stop : Stop) :
    Except ReadError Unit :=
  match source, rest, stop with
  | _, [], .closed => .ok ()
  | .value, _, _ => .error (.shape (.invalidLength total "fewer elements in array"))
  | .text, [], .cut => .error (.fault .truncated)
  | .text, _, _ => .error (.fault .malformed)

def elementCount (n : Nat) : String :=
  if n = 1 then "1 element" else toString n ++ " elements"

/-- A record with named fields, from an object or from an array of its fields in order. -/
def readRecord {σ : Type} (name : String) (fields : List (RecordField σ)) (start : σ)
    (source : Source) : Reader σ := fun budget node =>
  match node, budget with
  | .object _ _, 0 => tooDeep
  | .array _ _, 0 => tooDeep
  | .object members stop, budget + 1 => do
    let (seen, s) ← readFields fields budget [] start members
    liftFault stop.finish
    checkMissing fields seen
    return s
  | .array items stop, budget + 1 => do
    let expected := "struct " ++ name ++ " with " ++ elementCount fields.length
    let (s, rest) ← readPositions budget expected stop 0 fields start items
    endOfPositions source items.length rest stop
    return s
  | node, _ => mismatch node ("struct " ++ name)

/-! ## Documents -/

/-- How many arrays and objects a text may open inside one another. -/
def textBudget : Nat := 127

/-- Reads a whole text. Only blanks may follow its value. -/
def readText {α : Type} (reader : Source → Reader α) (text : String) : Except ReadError α := do
  let (node, rest) := scan text
  let read ← reader .text textBudget node
  if ((rest.getD ['?']).all isJsonBlank) then return read else .error (.fault .malformed)

/-- Reads a value that is already there. -/
def readFrom {α : Type} (reader : Source → Reader α) (value : Value) : Except ReadError α :=
  let node := Node.ofValue value
  reader .value (node.height + 1) node

/-- The value that a text holds. -/
def Value.parse (text : String) : Except ReadError Value :=
  readText (fun _ => readValue) text

end StaticSite.Json
