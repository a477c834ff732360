import StaticSite.Text.Printable

/-!
# Quoted text

A text in double quotes as messages show it: quotes and backslashes escaped, and
whatever cannot be seen on its own written as `\u` with its code point.
-/

namespace StaticSite.Text

def hexDigits (n : Nat) : List Char :=
  Nat.toDigits 16 n

/-- Whether a character can be seen on its own. -/
def isSeen (c : Char) : Bool :=
  printable.contains c && !graphemeExtend.contains c && !fillers.contains c

def quotedChar : Char → List Char
  | '\t' => ['\\', 't']
  | '\r' => ['\\', 'r']
  | '\n' => ['\\', 'n']
  | '\x00' => ['\\', '0']
  | '"' => ['\\', '"']
  | '\\' => ['\\', '\\']
  | c =>
    if isSeen c then [c]
    else ['\\', 'u', '\x7b'] ++ hexDigits c.toNat ++ ['\x7d']

def quoted (s : String) : String :=
  String.ofList ('"' :: s.toList.flatMap quotedChar ++ ['"'])

end StaticSite.Text
