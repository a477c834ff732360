import StaticSite.Decimal.Shortest

/-!
# Writing floats

Two ways to write a float. `plain` never uses an exponent and gives a whole number no
point; `tagged` always shows that the number is a float, by a point or by an exponent.
-/

namespace StaticSite.Decimal

def zeros (n : Nat) : String :=
  String.ofList (List.replicate n '0')

/-- Digits before and after the point, with zeros filled in where there are none. -/
def Scaled.places (d : Scaled) : String × String :=
  let text := toString d.digits
  let cut := (text.length : Int) + d.exponent
  if d.exponent ≥ 0 then (text ++ zeros d.exponent.toNat, "")
  else if cut > 0 then
    (String.ofList (text.toList.take cut.toNat), String.ofList (text.toList.drop cut.toNat))
  else ("0", zeros (-cut).toNat ++ text)

def signed (x : Float) (text : String) : String :=
  if isNegative x then "-" ++ text else text

/-- Without an exponent, and without a point where no digit follows it. -/
def plain (x : Float) : String :=
  if isNaN x then "NaN"
  else if !isFinite x then signed x "inf"
  else if isZero x then signed x "0"
  else
    let (whole, fraction) := ((magnitude x).shortest .up).places
    signed x (if fraction.isEmpty then whole else whole ++ "." ++ fraction)

/-- The power of ten of the leading digit. -/
def Scaled.scale (d : Scaled) : Int :=
  ((toString d.digits).length : Int) - 1 + d.exponent

/-- One digit before the point, and the exponent with its sign. -/
def Scaled.scientific (d : Scaled) : String :=
  let text := (toString d.digits).toList
  let fraction := String.ofList (text.drop 1)
  let mantissa := String.ofList (text.take 1) ++ if fraction.isEmpty then "" else "." ++ fraction
  mantissa ++ (if d.scale < 0 then "e-" else "e+") ++ toString d.scale.natAbs

/-- With a point or an exponent. The point is used while the leading digit stands between
the fifth place after it and the sixteenth before it. -/
def tagged (x : Float) : String :=
  if !isFinite x then "null"
  else if isZero x then signed x "0.0"
  else
    let d := (magnitude x).shortest .even
    if -5 ≤ d.scale && d.scale ≤ 15 then
      let (whole, fraction) := d.places
      signed x (whole ++ "." ++ if fraction.isEmpty then "0" else fraction)
    else signed x d.scientific

end StaticSite.Decimal
