/-!
# Binary floating point, exactly

A finite float is a natural number times a power of two. `Float.magnitude` takes that
form apart, and `nearestBits` finds the float closest to a quotient of two natural
numbers, a tie going to the even significand.
-/

namespace StaticSite.Decimal

/-- The number `significand * 2 ^ exponent`. -/
structure Magnitude where
  significand : Nat
  exponent : Int
  /-- The gap to the next float below is half the gap to the next one above. -/
  narrowBelow : Bool

def fractionBits (x : Float) : Nat :=
  x.toBits.toNat % Nat.pow 2 52

def exponentBits (x : Float) : Nat :=
  x.toBits.toNat / Nat.pow 2 52 % Nat.pow 2 11

def isNegative (x : Float) : Bool :=
  x.toBits.toNat / Nat.pow 2 63 == 1

/-- The absolute value of a finite float. -/
def magnitude (x : Float) : Magnitude :=
  if exponentBits x = 0 then
    { significand := fractionBits x, exponent := -1074, narrowBelow := false }
  else
    { significand := Nat.pow 2 52 + fractionBits x
      exponent := (exponentBits x : Int) - 1075
      narrowBelow := fractionBits x == 0 && exponentBits x > 1 }

/-- The natural number nearest to the value, a half going up. -/
def Magnitude.round (v : Magnitude) : Nat :=
  if v.exponent ≥ 0 then v.significand * Nat.pow 2 v.exponent.toNat
  else
    let unit := Nat.pow 2 (-v.exponent).toNat
    (2 * v.significand + unit) / (2 * unit)

def isFinite (x : Float) : Bool :=
  exponentBits x < 2047

def isZero (x : Float) : Bool :=
  exponentBits x == 0 && fractionBits x == 0

def isNaN (x : Float) : Bool :=
  !isFinite x && fractionBits x != 0

/-- The number between `low` and `high` that is nearest to `x`. -/
def clampRound (low high : Nat) (x : Float) : Nat :=
  if isNegative x then low else max low (min high (magnitude x).round)

/-- A quotient rounded to the nearest natural number, a half going to the even one. -/
def roundHalfEven (numerator denominator : Nat) : Nat :=
  let whole := numerator / denominator
  let rest := 2 * (numerator % denominator)
  if rest > denominator || (rest == denominator && whole % 2 == 1) then whole + 1 else whole

/-- `numerator / denominator` in units of `2 ^ exponent`, rounded. -/
def scaledRound (numerator denominator : Nat) (exponent : Int) : Nat :=
  roundHalfEven (numerator * Nat.pow 2 (-exponent).toNat) (denominator * Nat.pow 2 exponent.toNat)

/-- The exponent that leaves 53 binary digits of the quotient before the point, and
never less than the least exponent of a float. -/
def unitExponent (numerator denominator : Nat) : Int :=
  let estimate : Int := (numerator.log2 : Int) - denominator.log2 - 52
  let fits :=
    numerator * Nat.pow 2 (-estimate).toNat < denominator * Nat.pow 2 estimate.toNat * Nat.pow 2 52
  max (-1074) (if fits then estimate - 1 else estimate)

/-- The bits of the non-negative float nearest to `numerator / denominator`. -/
def nearestBits (numerator denominator : Nat) : Nat :=
  let exponent := unitExponent numerator denominator
  let units := scaledRound numerator denominator exponent
  let bits := (exponent + 1074).toNat * Nat.pow 2 52 + units
  min bits (2047 * Nat.pow 2 52)

def ofBits (negative : Bool) (bits : Nat) : Float :=
  Float.ofBits (UInt64.ofNat (bits + if negative then Nat.pow 2 63 else 0))

end StaticSite.Decimal
