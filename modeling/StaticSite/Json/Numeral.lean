import StaticSite.Json.Node

/-!
# Numbers in a JSON text

A numeral without a point and an exponent is an integer while it fits into 64 bits. Any
other becomes a float in few steps: at most as many leading digits are kept as fit into
64 bits, and that integer is multiplied or divided by one power of ten, so the last digit
of the result is not always the nearest.
-/

namespace StaticSite.Json

open StaticSite.Decimal

/-- The parts of a numeral, as its text gives them. -/
structure Numeral where
  negative : Bool
  whole : List Char
  fraction : List Char
  /-- The sign and the digits behind the exponent mark. -/
  exponent : Option (Bool × List Char)
  /-- There is a point or an exponent. -/
  tagged : Bool

/-- The digits kept so far, and the power of ten that they stand for. -/
structure Kept where
  significand : Nat
  exponent : Int

def keepLimit : Nat := Nat.pow 2 64

/-- Once a digit of the whole part does not fit, it and all that follow are dropped. -/
def keepWhole (significand : Nat) : List Char → Kept
  | [] => ⟨significand, 0⟩
  | c :: rest =>
    let next := 10 * significand + digitValue c
    if next < keepLimit then keepWhole next rest else ⟨significand, rest.length + 1⟩

/-- Digits of the fraction are kept as far as they fit. -/
def keepFraction (kept : Kept) : List Char → Kept
  | [] => kept
  | c :: rest =>
    let next := 10 * kept.significand + digitValue c
    if next < keepLimit then keepFraction ⟨next, kept.exponent - 1⟩ rest else kept

def exponentLimit : Int := Nat.pow 2 31

def saturate (e : Int) : Int :=
  max (-exponentLimit) (min e (exponentLimit - 1))

/-- The largest power of ten that is a float. -/
def greatestTen : Int := 308

def powerOfTen (e : Int) : Float :=
  nearest false 1 e

/-- A float that is too small is divided by great powers of ten until it is in reach. -/
def divideDown (x : Float) (exponent : Int) : Nat → Float
  | 0 => x
  | steps + 1 =>
    if -exponent ≤ greatestTen then x / powerOfTen (-exponent)
    else if x == 0 then x
    else divideDown (x / powerOfTen greatestTen) (exponent + greatestTen) steps

/-- `significand * 10 ^ exponent`; a number beyond the floats is refused. -/
def scaleTen (significand : Nat) (exponent : Int) : Except Fault Float :=
  let x := Number.toFloat (.integer significand)
  if 0 ≤ exponent then
    if exponent ≤ greatestTen then
      let product := x * powerOfTen exponent
      if isFinite product then .ok product else .error .malformed
    else if significand = 0 then .ok x
    else .error .malformed
  else .ok (divideDown x exponent 8)

def negateIf (negative : Bool) (x : Float) : Float :=
  if negative then -x else x

def Numeral.kept (n : Numeral) : Kept :=
  let whole := keepWhole 0 n.whole
  keepFraction whole n.fraction

/-- The float that a numeral with a point or an exponent stands for. An exponent that does
not fit into 32 bits decides alone. -/
def Numeral.float (n : Numeral) : Except Fault Float :=
  let kept := n.kept
  match n.exponent with
  | none => (scaleTen kept.significand kept.exponent).map (negateIf n.negative)
  | some (negative, digits) =>
    if (natOfDigits digits : Int) ≥ exponentLimit then
      if !negative && kept.significand ≠ 0 then .error .malformed
      else .ok (ofBits n.negative 0)
    else
      let e : Int := if negative then -(natOfDigits digits : Int) else natOfDigits digits
      (scaleTen kept.significand (saturate (kept.exponent + e))).map (negateIf n.negative)

/-- Integers are exact from `-2 ^ 63` to `2 ^ 64 - 1`; a zero with a minus is a float. -/
def Numeral.number (n : Numeral) : Except Fault Number :=
  let size := natOfDigits n.whole
  if n.tagged then n.float.map .float
  else if !n.negative && size < Nat.pow 2 64 then .ok (.integer size)
  else if n.negative && 0 < size && size ≤ Nat.pow 2 63 then .ok (.integer (-(size : Int)))
  else n.float.map .float

end StaticSite.Json
