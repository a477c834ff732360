import StaticSite.Decimal.Reader

/-!
# TOML scalars

Which words are numbers, dates or times. Of a number only two things matter, and they are
told apart: that it has the form of one, and that there is a value for it. A number that is
out of range has none, and some forms let more pass than any value stands for.
-/

namespace StaticSite.Toml

/-- Digits of a kind, with single underscores between them. -/
def isUnderscored (isDigit : Char → Bool) : List Char → Bool
  | [] => false
  | [c] => isDigit c
  | c :: '_' :: rest => isDigit c && isUnderscored isDigit rest
  | c :: rest => isDigit c && isUnderscored isDigit rest

def withoutUnderscores (cs : List Char) : List Char :=
  cs.filter (· != '_')

/-- A whole number without its sign; only zero begins with a zero. -/
def isWhole (cs : List Char) : Bool :=
  isUnderscored Char.isDigit cs && (cs.head? != some '0' || cs.length == 1)

def isHexDigit (c : Char) : Bool :=
  c.isDigit || ('a' ≤ c && c ≤ 'f') || ('A' ≤ c && c ≤ 'F')

def hexDigitValue (c : Char) : Nat :=
  if c.isDigit then c.toNat - '0'.toNat else c.toLower.toNat - 'a'.toNat + 10

def valueIn (base : Nat) (digits : List Char) : Nat :=
  digits.foldl (fun n c => base * n + hexDigitValue c) 0

/-- Whole numbers are in range up to 128 bits. -/
def fits (negative : Bool) (size : Nat) : Bool :=
  if negative then size ≤ Nat.pow 2 127 else size < Nat.pow 2 128

/-- The base that the front of a number names, and what stands behind it. -/
def base? : List Char → Option (Nat × List Char)
  | '0' :: 'x' :: digits => some (16, digits)
  | '0' :: 'o' :: digits => some (8, digits)
  | '0' :: 'b' :: digits => some (2, digits)
  | _ => none

def isDigitIn (base : Nat) (c : Char) : Bool :=
  isHexDigit c && hexDigitValue c < base

/-- Exponent and what is in front of it, where there is an exponent. -/
def splitExponent (cs : List Char) : List Char × Option (List Char) :=
  let isMark (c : Char) : Bool := c = 'e' || c = 'E'
  match cs.dropWhile (!isMark ·) with
  | [] => (cs, none)
  | _ :: exponent => (cs.takeWhile (!isMark ·), some exponent)

def isFraction (cs : List Char) : Bool :=
  let whole := cs.takeWhile (· != '.')
  match cs.dropWhile (· != '.') with
  | [] => isWhole whole
  | _ :: fraction => isWhole whole && isUnderscored Char.isDigit fraction

/-- A number that may have a point and an exponent. -/
def isFloatText (cs : List Char) : Bool :=
  let (mantissa, exponent) := splitExponent cs
  isFraction mantissa &&
    exponent.all fun e => isUnderscored Char.isDigit (Decimal.takeSign e).2

/-- The words for what lies beyond all numbers, and for what is none. -/
def isNumberWord (cs : List Char) : Bool :=
  cs = ['i', 'n', 'f'] || cs = ['n', 'a', 'n']

/-- Whether every underscore stands between two hexadecimal digits. -/
def underscoresFit : List Char → Bool
  | c :: '_' :: d :: rest => isHexDigit c && isHexDigit d && underscoresFit (d :: rest)
  | '_' :: _ => false
  | _ :: rest => underscoresFit rest
  | [] => true

/-- A whole number with underscores. Behind the first one the form is only looked at around
the underscores, unless something in it promises a float or begins another word. -/
def isLooseWhole (cs : List Char) : Bool :=
  let rest := cs.dropWhile Char.isDigit
  cs.head? != some '0' && rest.head? == some '_' && underscoresFit cs &&
    !rest.any ['.', 'e', 'E', ' '].contains

/-- The form of a number. Behind the mark of a base the digits may be left out. -/
def isNumber (cs : List Char) : Bool :=
  match base? cs with
  | some (base, digits) => digits.isEmpty || isUnderscored (isDigitIn base) digits
  | none =>
    let body := (Decimal.takeSign cs).2
    isNumberWord body || isFloatText body || isLooseWhole body

/-- Whether there is a value for a number. -/
def hasValue (cs : List Char) : Bool :=
  match base? cs with
  | some (base, digits) =>
    !digits.isEmpty && fits false (valueIn base (withoutUnderscores digits))
  | none =>
    let (negative, body) := Decimal.takeSign cs
    let digits := withoutUnderscores body
    if isWhole body then fits negative (Decimal.natOfDigits digits)
    else
      isNumberWord body ||
        (isFloatText body && (Decimal.unsigned? false digits).any Decimal.isFinite)

/-! ## Dates and times -/

def twoDigits (low high : Nat) (cs : List Char) : Option (List Char) :=
  match cs with
  | a :: b :: rest =>
    let n := Decimal.natOfDigits [a, b]
    if a.isDigit && b.isDigit && low ≤ n && n ≤ high then some rest else none
  | _ => none

def expectChar (c : Char) : List Char → Option (List Char)
  | d :: rest => if c = d then some rest else none
  | [] => none

def isLeapYear (year : Nat) : Bool :=
  year % 4 == 0 && (year % 100 != 0 || year % 400 == 0)

def daysIn (year month : Nat) : Nat :=
  if month = 2 then (if isLeapYear year then 29 else 28)
  else if [4, 6, 9, 11].contains month then 30
  else 31

/-- A date at the front. -/
def takeDate (cs : List Char) : Option (List Char) := do
  let year := cs.take 4
  if year.length = 4 && year.all Char.isDigit then
    let afterYear ← expectChar '-' (cs.drop 4)
    let afterMonth ← twoDigits 1 12 afterYear
    let dayPart ← expectChar '-' afterMonth
    let month := Decimal.natOfDigits (afterYear.take 2)
    twoDigits 1 (daysIn (Decimal.natOfDigits year) month) dayPart
  else none

def takeFraction (cs : List Char) : Option (List Char) :=
  match cs with
  | '.' :: rest =>
    if (rest.takeWhile Char.isDigit).isEmpty then none else some (rest.dropWhile Char.isDigit)
  | cs => some cs

/-- A time at the front; the seconds may be left out. -/
def takeTime (cs : List Char) : Option (List Char) := do
  let rest ← twoDigits 0 23 cs
  let rest ← expectChar ':' rest
  let rest ← twoDigits 0 59 rest
  match rest with
  | ':' :: rest => takeFraction (← twoDigits 0 60 rest)
  | rest => some rest

def isOffset (cs : List Char) : Bool :=
  match cs with
  | [] => true
  | [c] => c = 'Z' || c = 'z'
  | sign :: rest =>
    (sign = '+' || sign = '-') &&
      ((twoDigits 0 23 rest).bind fun rest =>
        (expectChar ':' rest).bind (twoDigits 0 59)) == some []

def isTime (cs : List Char) : Bool :=
  takeTime cs == some []

def isDateTime (cs : List Char) : Bool :=
  match takeDate cs with
  | none => false
  | some [] => true
  | some (separator :: rest) =>
    (separator = 'T' || separator = 't' || separator = ' ') && (takeTime rest).any isOffset

/-- A date, a time or both. -/
def isMoment (cs : List Char) : Bool :=
  isDateTime cs || isTime cs

end StaticSite.Toml
