import StaticSite.Json.Numeral

/-!
# Scanning a JSON text

`scan` turns the characters of a text into a `Node` and the characters behind it. When a
fault stops the scan there is nothing behind the node.
-/

namespace StaticSite.Json

/-- Blank, tab, line feed and carriage return. -/
def isJsonBlank (c : Char) : Bool :=
  c = ' ' || c = '\t' || c = '\n' || c = '\r'

def skipBlanks (cs : List Char) : List Char :=
  cs.dropWhile isJsonBlank

/-- What reading a piece of text gives, and where the text goes on. The second can be
there without the first, for a piece that may only be skipped. -/
structure Scanned (α : Type) where
  read : Except Fault α
  rest : Except Fault (List Char)

/-! ## Strings -/

def hexValue? (c : Char) : Option Nat :=
  if c.isDigit then some (c.toNat - '0'.toNat)
  else if 'a' ≤ c && c ≤ 'f' then some (c.toNat - 'a'.toNat + 10)
  else if 'A' ≤ c && c ≤ 'F' then some (c.toNat - 'A'.toNat + 10)
  else none

def unitOf? (digits : List Char) : Option Nat :=
  digits.foldlM (fun n c => (hexValue? c).map (16 * n + ·)) 0

/-- The four hexadecimal digits at the front. A text with less than four bytes left ends
too early, whatever it holds. -/
def codeUnit (cs : List Char) : Except Fault Nat :=
  let digits := cs.take 4
  match digits.length, unitOf? digits with
  | 4, some unit => .ok unit
  | _, _ => .error (if (String.ofList digits).utf8ByteSize < 4 then .truncated else .malformed)

/-- The second half of a surrogate pair, behind the digits of the first. -/
def lowSurrogate : List Char → Except Fault Nat
  | [] => .error .truncated
  | '\\' :: [] => .error .truncated
  | '\\' :: 'u' :: rest => do
    let unit ← codeUnit rest
    if 0xdc00 ≤ unit && unit ≤ 0xdfff then .ok unit else .error .malformed
  | _ => .error .malformed

/-- The character that an escape with a code unit stands for, and how many characters of
the text behind the digits belong to it. -/
def escapedUnit (unit : Nat) (rest : List Char) : Except Fault (Char × Nat) :=
  if 0xdc00 ≤ unit && unit ≤ 0xdfff then .error .malformed
  else if 0xd800 ≤ unit && unit ≤ 0xdbff then do
    let low ← lowSurrogate rest
    .ok (Char.ofNat (0x10000 + (unit - 0xd800) * 0x400 + (low - 0xdc00)), 6)
  else .ok (Char.ofNat unit, 0)

def simpleEscape? : Char → Option Char
  | '"' => some '"'
  | '\\' => some '\\'
  | '/' => some '/'
  | 'b' => some '\x08'
  | 'f' => some '\x0c'
  | 'n' => some '\n'
  | 'r' => some '\r'
  | 't' => some '\t'
  | _ => none

/-- The first of two faults. -/
def orElseFault {α : Type} (read : Except Fault α) (fault : Fault) : Except Fault α :=
  match read with
  | .ok _ => .error fault
  | .error first => .error first

/-- A string behind its opening quote; `before` holds the characters read so far, the last
one first. -/
def scanString (before : Except Fault (List Char)) : List Char → Scanned String
  | [] => ⟨(orElseFault before .truncated).map String.ofList, .error .truncated⟩
  | '"' :: rest => ⟨before.map fun cs => String.ofList cs.reverse, .ok rest⟩
  | '\\' :: [] => ⟨(orElseFault before .truncated).map String.ofList, .error .truncated⟩
  | '\\' :: 'u' :: rest =>
    match codeUnit rest with
    | .error fault => ⟨(orElseFault before fault).map String.ofList, .error fault⟩
    | .ok unit =>
      match escapedUnit unit (rest.drop 4) with
      | .error fault => scanString (orElseFault before fault) (rest.drop 4)
      | .ok (c, more) => scanString (before.map (c :: ·)) (rest.drop (4 + more))
  | '\\' :: c :: rest =>
    match simpleEscape? c with
    | some d => scanString (before.map (d :: ·)) rest
    | none => ⟨(orElseFault before .malformed).map String.ofList, .error .malformed⟩
  | c :: rest =>
    if c.toNat < 0x20 then ⟨(orElseFault before .malformed).map String.ofList, .error .malformed⟩
    else scanString (before.map (c :: ·)) rest
termination_by cs => cs.length
decreasing_by all_goals simp_wf; all_goals omega

/-! ## Numbers and words -/

/-- One or more digits. -/
def scanDigits (cs : List Char) : Except Fault (List Char × List Char) :=
  match cs.takeWhile Char.isDigit with
  | [] => .error (if cs.isEmpty then .truncated else .malformed)
  | digits => .ok (digits, cs.dropWhile Char.isDigit)

/-- The digits before the point; a zero stands alone. -/
def scanWhole (cs : List Char) : Except Fault (List Char × List Char) := do
  let (digits, rest) ← scanDigits cs
  match digits with
  | '0' :: _ :: _ => .error .malformed
  | _ => .ok (digits, rest)

def scanFraction : List Char → Except Fault (List Char × List Char)
  | '.' :: rest => scanDigits rest
  | cs => .ok ([], cs)

def scanExponent : List Char → Except Fault (Option (Bool × List Char) × List Char)
  | mark :: rest =>
    if mark = 'e' || mark = 'E' then do
      let (negative, body) := Decimal.takeSign rest
      let (digits, rest) ← scanDigits body
      .ok (some (negative, digits), rest)
    else .ok (none, mark :: rest)
  | [] => .ok (none, [])

def scanNumeral (cs : List Char) : Except Fault (Numeral × List Char) := do
  let (negative, body) :=
    match cs with
    | '-' :: rest => (true, rest)
    | _ => (false, cs)
  let (whole, rest) ← scanWhole body
  let (fraction, rest) ← scanFraction rest
  let (exponent, rest) ← scanExponent rest
  .ok (⟨negative, whole, fraction, exponent, !fraction.isEmpty || exponent.isSome⟩, rest)

/-- The letters of a word, one after the other. -/
def scanWord (word : List Char) (cs : List Char) : Except Fault (List Char) :=
  match word, cs with
  | [], rest => .ok rest
  | _ :: _, [] => .error .truncated
  | w :: word, c :: rest => if w = c then scanWord word rest else .error .malformed

/-! ## Values -/

/-- A node, and the text behind it unless a fault stopped the scan. -/
abbrev ScannedNode := Node × Option (List Char)

def scannedWord (node : Node) (word cs : List Char) : ScannedNode :=
  match scanWord word cs with
  | .ok rest => (node, some rest)
  | .error fault => (.broken fault fault, none)

/-- A value that is neither array nor object. -/
def scanScalar (c : Char) (rest : List Char) : ScannedNode :=
  if c = 'n' then scannedWord .null ['u', 'l', 'l'] rest
  else if c = 't' then scannedWord (.bool true) ['r', 'u', 'e'] rest
  else if c = 'f' then scannedWord (.bool false) ['a', 'l', 's', 'e'] rest
  else if c = '"' then
    let scanned := scanString (.ok []) rest
    match scanned.rest, scanned.read with
    | .ok rest, read => (.string read, some rest)
    | .error onSkip, .error onRead => (.unended onRead onSkip, none)
    | .error onSkip, .ok _ => (.unended onSkip onSkip, none)
  else if c = '-' || c.isDigit then
    match scanNumeral (c :: rest) with
    | .ok (numeral, rest) => (.number numeral.number, some rest)
    | .error fault => (.broken fault .malformed, none)
  else (.broken .malformed .malformed, none)

mutual

/-- Scans one value. `fuel` bounds the number of steps; the number of characters left is
enough. -/
def scanValue (fuel : Nat) (cs : List Char) : ScannedNode :=
  match fuel with
  | 0 => (.absent, none)
  | fuel + 1 =>
    match skipBlanks cs with
    | [] => (.absent, none)
    | '[' :: rest =>
      match skipBlanks rest with
      | [] => (.array [] .cut, none)
      | ']' :: rest => (.array [] .closed, some rest)
      | rest =>
        let (items, stop, rest) := scanItems fuel rest
        (.array items stop, rest)
    | '\x7b' :: rest =>
      match skipBlanks rest with
      | [] => (.object [] .cut, none)
      | '\x7d' :: rest => (.object [] .closed, some rest)
      | '"' :: rest =>
        let (members, stop, rest) := scanMembers fuel rest
        (.object members stop, rest)
      | _ => (.object [(.stray, .null)] .junk, none)
    | c :: rest => scanScalar c rest

/-- The items of an array from the first one on. -/
def scanItems (fuel : Nat) (cs : List Char) : List Node × Stop × Option (List Char) :=
  match fuel with
  | 0 => ([], .cut, none)
  | fuel + 1 =>
    match scanValue fuel cs with
    | (item, none) => ([item], .cut, none)
    | (item, some rest) =>
      match skipBlanks rest with
      | [] => ([item], .cut, none)
      | ']' :: rest => ([item], .closed, some rest)
      | ',' :: rest =>
        match skipBlanks rest with
        | [] => ([item], .comma .truncated, none)
        | ']' :: _ => ([item], .comma .malformed, none)
        | rest =>
          let (items, stop, rest) := scanItems fuel rest
          (item :: items, stop, rest)
      | _ => ([item], .junk, none)

/-- The members of an object from behind the quote that opens the first key. -/
def scanMembers (fuel : Nat) (cs : List Char) : List (Key × Node) × Stop × Option (List Char) :=
  match fuel with
  | 0 => ([], .cut, none)
  | fuel + 1 =>
    let key := scanString (.ok []) cs
    match key.rest with
    | .error fault =>
      let onRead := match key.read with
        | .error first => first
        | .ok _ => fault
      ([(.broken onRead, .broken fault fault)], .cut, none)
    | .ok rest =>
      let scanned :=
        match skipBlanks rest with
        | [] => (.absent, none)
        | ':' :: rest => scanValue fuel rest
        | _ => (.broken .malformed .malformed, none)
      match scanned with
      | (node, none) => ([(.text key.read, node)], .cut, none)
      | (node, some rest) =>
        let member := (Key.text key.read, node)
        match skipBlanks rest with
        | [] => ([member], .cut, none)
        | '\x7d' :: rest => ([member], .closed, some rest)
        | ',' :: rest =>
          match skipBlanks rest with
          | [] => ([member], .comma .truncated, none)
          | '"' :: rest =>
            let (members, stop, rest) := scanMembers fuel rest
            (member :: members, stop, rest)
          | _ => ([member], .comma .malformed, none)
        | _ => ([member], .junk, none)

end

/-- The first value of a text. -/
def scan (text : String) : ScannedNode :=
  let cs := text.toList
  scanValue (2 * cs.length + 2) cs

end StaticSite.Json
