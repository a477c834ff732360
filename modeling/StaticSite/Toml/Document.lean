import StaticSite.Toml.Scalar
import StaticSite.Toml.Table

/-!
# Reading TOML

`parse` reads a whole document into its root table, or refuses it. Why it does so is not
told.
-/

namespace StaticSite.Toml

/-- How many keys may be joined by dots, and how many arrays and inline tables may stand
inside one another. -/
def depthLimit : Nat := 80

/-! ## Blanks and comments -/

def isBlank (c : Char) : Bool :=
  c = ' ' || c = '\t'

def skipSpaces (cs : List Char) : List Char :=
  cs.dropWhile isBlank

/-- Characters that may stand neither in a comment nor in a string. -/
def isControl (c : Char) : Bool :=
  (c.toNat < 0x20 && c != '\t') || c.toNat = 0x7f

def takeNewline? : List Char → Option (List Char)
  | '\n' :: rest => some rest
  | '\r' :: '\n' :: rest => some rest
  | _ => none

/-- A comment up to the end of its line. -/
def skipComment : List Char → Option (List Char)
  | [] => some []
  | '\n' :: rest => some ('\n' :: rest)
  | '\r' :: '\n' :: rest => some ('\r' :: '\n' :: rest)
  | c :: rest => if isControl c then none else skipComment rest

/-- Blanks, and a comment if there is one. -/
def skipToLineEnd (cs : List Char) : Option (List Char) :=
  match skipSpaces cs with
  | '#' :: rest => skipComment rest
  | rest => some rest

/-- Blanks, comments and newlines. -/
def skipLines : (fuel : Nat) → List Char → Option (List Char)
  | 0, cs => some cs
  | fuel + 1, cs => do
    let rest ← skipToLineEnd cs
    match takeNewline? rest with
    | some next => skipLines fuel next
    | none => some rest

/-- What may stand between two parts of an array or an inline table. -/
def skipGap (cs : List Char) : Option (List Char) :=
  skipLines cs.length cs

/-! ## Strings -/

def takeHex (count : Nat) (cs : List Char) : Option (Char × List Char) :=
  let digits := cs.take count
  let code := valueIn 16 digits
  if digits.length = count && digits.all isHexDigit && Nat.isValidChar code then
    some (Char.ofNat code, cs.drop count)
  else none

/-- An escape behind its backslash. -/
def takeEscape : List Char → Option (Char × List Char)
  | 'b' :: rest => some ('\x08', rest)
  | 't' :: rest => some ('\t', rest)
  | 'n' :: rest => some ('\n', rest)
  | 'f' :: rest => some ('\x0c', rest)
  | 'r' :: rest => some ('\r', rest)
  | 'e' :: rest => some ('\x1b', rest)
  | '"' :: rest => some ('"', rest)
  | '\\' :: rest => some ('\\', rest)
  | 'x' :: rest => takeHex 2 rest
  | 'u' :: rest => takeHex 4 rest
  | 'U' :: rest => takeHex 8 rest
  | _ => none

/-- A string in double quotes behind the first one. -/
def takeBasic : (fuel : Nat) → List Char → Option (List Char × List Char)
  | 0, _ => none
  | _, [] => none
  | _, '"' :: rest => some ([], rest)
  | fuel + 1, '\\' :: rest => do
    let (c, rest) ← takeEscape rest
    let (cs, rest) ← takeBasic fuel rest
    return (c :: cs, rest)
  | fuel + 1, c :: rest => do
    if isControl c then none
    else
      let (cs, rest) ← takeBasic fuel rest
      return (c :: cs, rest)

/-- A string in single quotes behind the first one. -/
def takeLiteral (cs : List Char) : Option (List Char × List Char) :=
  let body := cs.takeWhile (· != '\'')
  match cs.dropWhile (· != '\'') with
  | _ :: rest => if body.any isControl then none else some (body, rest)
  | [] => none

/-- The quotes at the front, at most five: three of them close the string, and those in
front of the three belong to it. -/
def closingQuotes (quote : Char) (cs : List Char) : Nat :=
  min 5 (cs.takeWhile (· == quote)).length

/-- Blanks and newlines. A carriage return counts only in front of a line feed. -/
def skipEmptyLines : List Char → List Char
  | ' ' :: rest => skipEmptyLines rest
  | '\t' :: rest => skipEmptyLines rest
  | '\n' :: rest => skipEmptyLines rest
  | '\r' :: '\n' :: rest => skipEmptyLines rest
  | cs => cs

/-- What is passed over behind a backslash that ends a line. -/
def skipContinued (cs : List Char) : Option (List Char) :=
  (takeNewline? (skipSpaces cs)).map skipEmptyLines

/-- A string between three quotes and three quotes. Newlines stay as they are written. -/
def takeLong (quote : Char) : (fuel : Nat) → List Char → Option (List Char × List Char)
  | 0, _ => none
  | _, [] => none
  | fuel + 1, c :: rest =>
    let quotes := closingQuotes quote (c :: rest)
    let keep (c : Char) (rest : List Char) : Option (List Char × List Char) :=
      (takeLong quote fuel rest).map fun (cs, rest) => (c :: cs, rest)
    if 3 ≤ quotes then some (List.replicate (quotes - 3) quote, (c :: rest).drop quotes)
    else if c = '\\' && quote = '"' then
      match skipContinued rest with
      | some rest => takeLong quote fuel rest
      | none => (takeEscape rest).bind fun (d, rest) => keep d rest
    else if isControl c && (takeNewline? (c :: rest)).isNone then none
    else keep c rest

def skipFirstNewline (cs : List Char) : List Char :=
  (takeNewline? cs).getD cs

/-- A string of one of the four kinds. -/
def takeString (cs : List Char) : Option (List Char × List Char) :=
  match cs with
  | '"' :: '"' :: '"' :: rest => takeLong '"' (rest.length + 1) (skipFirstNewline rest)
  | '\'' :: '\'' :: '\'' :: rest => takeLong '\'' (rest.length + 1) (skipFirstNewline rest)
  | '"' :: rest => takeBasic (rest.length + 1) rest
  | '\'' :: rest => takeLiteral rest
  | _ => none

/-! ## Keys -/

def isBareKeyCharacter (c : Char) : Bool :=
  c.isAlphanum || c = '-' || c = '_'

def takeSimpleKey (cs : List Char) : Option (List Char × List Char) :=
  match cs with
  | '"' :: rest => takeBasic (rest.length + 1) rest
  | '\'' :: rest => takeLiteral rest
  | cs =>
    let key := cs.takeWhile isBareKeyCharacter
    if key.isEmpty then none else some (key, cs.dropWhile isBareKeyCharacter)

/-- Keys with dots between them, up to a limit, and the blanks behind them. -/
def takeDotted : (limit : Nat) → List Char → Option (List String × List Char)
  | 0, _ => none
  | limit + 1, cs => do
    let (key, rest) ← takeSimpleKey cs
    match skipSpaces rest with
    | '.' :: rest =>
      let (keys, rest) ← takeDotted limit (skipSpaces rest)
      return (String.ofList key :: keys, rest)
    | rest => return ([String.ofList key], rest)

def takeKeys : List Char → Option (List String × List Char) :=
  takeDotted depthLimit

/-! ## Values -/

/-- Characters that end a word. -/
def isDelimiter (c : Char) : Bool :=
  ['=', ',', '[', ']', '\x7b', '\x7d', '#', '\r', '\n'].contains c

/-- A word. Blanks belong to it if more of the word follows, so that a date can be told
together with its time; a string never follows. -/
def takeWord : List Char → List Char × List Char
  | [] => ([], [])
  | c :: rest =>
    if isDelimiter c then ([], c :: rest)
    else
      let (word, after) := takeWord rest
      if !isBlank c || word.head?.any fun d => d != '"' && d != '\'' then (c :: word, after)
      else ([], c :: rest)

def takeBare (cs : List Char) : Option (Value × List Char) :=
  let (word, rest) := takeWord cs
  if word = ['t', 'r', 'u', 'e'] then some (.bool true, rest)
  else if word = ['f', 'a', 'l', 's', 'e'] then some (.bool false, rest)
  else if isNumber word then some (.number (hasValue word), rest)
  else if isMoment word then some (.moment, rest)
  else none

mutual

/-- A value that opens at most `depth` arrays and inline tables inside one another. -/
def takeValue (fuel depth : Nat) (cs : List Char) : Option (Value × List Char) :=
  match fuel with
  | 0 => none
  | fuel + 1 =>
    match cs with
    | '"' :: _ => (takeString cs).map fun (s, rest) => (.string (String.ofList s), rest)
    | '\'' :: _ => (takeString cs).map fun (s, rest) => (.string (String.ofList s), rest)
    | '[' :: rest =>
      if depth = 0 then none
      else (takeItems fuel (depth - 1) rest).map fun (items, rest) => (.array items, rest)
    | '\x7b' :: rest =>
      if depth = 0 then none
      else
        (takeMembers fuel (depth - 1) [] rest).map fun (entries, rest) =>
          (.table .inline entries, rest)
    | cs => takeBare cs

/-- The items of an array, up to its closing bracket. -/
def takeItems (fuel depth : Nat) (cs : List Char) : Option (List Value × List Char) :=
  match fuel with
  | 0 => none
  | fuel + 1 => do
    match ← skipGap cs with
    | ']' :: rest => return ([], rest)
    | cs =>
      let (item, rest) ← takeValue fuel depth cs
      match ← skipGap rest with
      | ']' :: rest => return ([item], rest)
      | ',' :: rest =>
        let (items, rest) ← takeItems fuel depth rest
        return (item :: items, rest)
      | _ => none

/-- The members of an inline table, up to its closing brace. -/
def takeMembers (fuel depth : Nat) (entries : Entries) (cs : List Char) :
    Option (Entries × List Char) :=
  match fuel with
  | 0 => none
  | fuel + 1 => do
    match ← skipGap cs with
    | '\x7d' :: rest => return (entries, rest)
    | cs =>
      let (keys, rest) ← takeKeys cs
      let rest ← expectChar '=' (← skipGap rest)
      let (value, rest) ← takeValue fuel depth (← skipGap rest)
      let entries ← insertDotted keys value .inline entries
      match ← skipGap rest with
      | '\x7d' :: rest => return (entries, rest)
      | ',' :: rest => takeMembers fuel depth entries rest
      | _ => none

end

/-- A key and its value on one line. -/
def takePair (cs : List Char) : Option (List String × Value × List Char) := do
  let (keys, rest) ← takeKeys cs
  let rest ← expectChar '=' rest
  let (value, rest) ← takeValue (2 * rest.length + 2) depthLimit (skipSpaces rest)
  return (keys, value, rest)

/-! ## Documents -/

/-- The root table, and the keys of the table that is open. -/
structure State where
  root : Entries
  current : List String

/-- The keys of a header between its brackets. -/
def takeHeader (cs : List Char) : Option ((Bool × List String) × List Char) := do
  match cs with
  | '[' :: rest =>
    let (keys, rest) ← takeKeys (skipSpaces rest)
    return ((true, keys), ← (expectChar ']' rest).bind (expectChar ']'))
  | rest =>
    let (keys, rest) ← takeKeys (skipSpaces rest)
    return ((false, keys), ← expectChar ']' rest)

/-- A header or a pair at the beginning of a line. -/
def takeStatement (state : State) (cs : List Char) : Option (State × List Char) := do
  match cs with
  | '[' :: rest =>
    let ((element, keys), rest) ← takeHeader rest
    return (⟨← openHeader element keys .header state.root, keys⟩, rest)
  | cs =>
    let (keys, value, rest) ← takePair cs
    let root ← descend false (insertDotted keys value) state.current .header state.root
    return ({ state with root }, rest)

def takeStatements : (fuel : Nat) → State → List Char → Option State
  | 0, _, _ => none
  | fuel + 1, state, cs => do
    match ← skipLines (cs.length + 1) cs with
    | [] => return state
    | cs =>
      let (state, rest) ← takeStatement state cs
      match ← skipToLineEnd rest with
      | [] => return state
      | rest => takeStatements fuel state (← takeNewline? rest)

/-- The root table of a document. A byte order mark in front is passed over. -/
def parse (text : String) : Option Entries :=
  let cs :=
    match text.toList with
    | '\ufeff' :: rest => rest
    | cs => cs
  (takeStatements (cs.length + 1) ⟨[], []⟩ cs).map (·.root)

end StaticSite.Toml
