import StaticSite.Decimal.Layout

/-!
# Reading decimals

The text of a number, and the float nearest to it.
-/

namespace StaticSite.Decimal

def digitValue (c : Char) : Nat :=
  c.toNat - '0'.toNat

def natOfDigits (digits : List Char) : Nat :=
  digits.foldl (fun n c => 10 * n + digitValue c) 0

/-- The float nearest to `digits * 10 ^ exponent`. Beyond the range of floats that is
decided by the number of digits, so no great power is ever computed. -/
def nearest (negative : Bool) (digits : Nat) (exponent : Int) : Float :=
  let size := ((toString digits).length : Int) + exponent
  if digits = 0 || size < -330 then ofBits negative 0
  else if size > 310 then ofBits negative (2047 * Nat.pow 2 52)
  else
    ofBits negative
      (nearestBits (digits * Nat.pow 10 exponent.toNat) (Nat.pow 10 (-exponent).toNat))

def notANumber : Float :=
  ofBits false (2047 * Nat.pow 2 52 + Nat.pow 2 51)

def infinity (negative : Bool) : Float :=
  ofBits negative (2047 * Nat.pow 2 52)

/-- An optional sign; true for a minus. -/
def takeSign : List Char → Bool × List Char
  | '-' :: rest => (true, rest)
  | '+' :: rest => (false, rest)
  | cs => (false, cs)

/-- An exponent after its mark: digits with an optional sign, to the end. -/
def exponent? (cs : List Char) : Option Int :=
  let (negative, digits) := takeSign cs
  if digits.isEmpty || !digits.all Char.isDigit then none
  else some (if negative then -(natOfDigits digits : Int) else natOfDigits digits)

/-- A number without its sign: digits with at most one point among them, then an exponent
or nothing. -/
def unsigned? (negative : Bool) (cs : List Char) : Option Float :=
  let whole := cs.takeWhile Char.isDigit
  let afterWhole := cs.dropWhile Char.isDigit
  let (fraction, rest) :=
    match afterWhole with
    | '.' :: tail => (tail.takeWhile Char.isDigit, tail.dropWhile Char.isDigit)
    | tail => ([], tail)
  if whole.isEmpty && fraction.isEmpty then none
  else
    let value (e : Int) := nearest negative (natOfDigits (whole ++ fraction)) (e - fraction.length)
    match rest with
    | [] => some (value 0)
    | mark :: tail => if mark.toLower = 'e' then (exponent? tail).map value else none

/-- The whole text as a number: an optional sign, then digits or one of the words `inf`,
`infinity` and `nan` in any case. -/
def float? (s : String) : Option Float :=
  let (negative, body) := takeSign s.toList
  match String.ofList (body.map Char.toLower) with
  | "inf" | "infinity" => some (infinity negative)
  | "nan" => some notANumber
  | _ => unsigned? negative body

end StaticSite.Decimal
