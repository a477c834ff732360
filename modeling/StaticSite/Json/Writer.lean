import StaticSite.Json.Value

/-!
# Writing JSON

The compact form has no blanks; the indented form puts every item and member on a line
of its own, two spaces deeper than what holds it.
-/

namespace StaticSite.Json

open StaticSite.Decimal

def hexDigit (n : Nat) : Char :=
  Nat.digitChar n

def escapeChar (c : Char) : List Char :=
  if c = '"' then ['\\', '"']
  else if c = '\\' then ['\\', '\\']
  else if c = '\x08' then ['\\', 'b']
  else if c = '\x0c' then ['\\', 'f']
  else if c = '\n' then ['\\', 'n']
  else if c = '\r' then ['\\', 'r']
  else if c = '\t' then ['\\', 't']
  else if c.toNat < 0x20 then
    ['\\', 'u', '0', '0', hexDigit (c.toNat / 16), hexDigit (c.toNat % 16)]
  else [c]

def quote (s : String) : String :=
  String.ofList ('"' :: s.toList.flatMap escapeChar ++ ['"'])

def Number.write : Number → String
  | .integer n => toString n
  | .float x => tagged x

def bracketed (opening : String) (parts : List String) (closing : String) : String :=
  opening ++ String.intercalate "," parts ++ closing

mutual

def Value.write : Value → String
  | .null => "null"
  | .bool b => if b then "true" else "false"
  | .number n => n.write
  | .string s => quote s
  | .array items => bracketed "[" (writeItems items) "]"
  | .object members => bracketed "\x7b" (writeMembers members) "\x7d"

def writeItems : List Value → List String
  | [] => []
  | item :: rest => item.write :: writeItems rest

def writeMembers : List (String × Value) → List String
  | [] => []
  | (key, value) :: rest => (quote key ++ ":" ++ value.write) :: writeMembers rest

end

def lineStart (depth : Nat) : String :=
  String.ofList ('\n' :: List.replicate (2 * depth) ' ')

/-- Parts between brackets, each on a line one step deeper than the brackets. -/
def indentedBlock (depth : Nat) (opening : String) (parts : List String) (closing : String) :
    String :=
  if parts.isEmpty then opening ++ closing
  else
    opening ++ String.intercalate "," (parts.map (lineStart (depth + 1) ++ ·)) ++
      lineStart depth ++ closing

mutual

def Value.indented (depth : Nat) : Value → String
  | .array items => indentedBlock depth "[" (indentedItems (depth + 1) items) "]"
  | .object members => indentedBlock depth "\x7b" (indentedMembers (depth + 1) members) "\x7d"
  | .null => "null"
  | .bool b => if b then "true" else "false"
  | .number n => n.write
  | .string s => quote s

def indentedItems (depth : Nat) : List Value → List String
  | [] => []
  | item :: rest => item.indented depth :: indentedItems depth rest

def indentedMembers (depth : Nat) : List (String × Value) → List String
  | [] => []
  | (key, value) :: rest =>
    (quote key ++ ": " ++ value.indented depth) :: indentedMembers depth rest

end

/-- The indented form of a whole document. -/
def Value.pretty (value : Value) : String :=
  value.indented 0

end StaticSite.Json
