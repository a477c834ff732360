import StaticSite.Decimal.Binary

/-!
# Shortest decimals

The decimal with the fewest digits among those that read back as a given float, and
of these the one closest to it. The search goes from coarse to fine through the powers
of ten; on each it tries the two neighbours of the value.
-/

namespace StaticSite.Decimal

/-- The number `digits * 10 ^ exponent`. -/
structure Scaled where
  digits : Nat
  exponent : Int

/-- Which of two equally close decimals is taken. -/
inductive Tie
  | even
  | up

/-- Compares `a * 10 ^ i` with `b * 2 ^ j`. -/
def compareScaled (a : Nat) (i : Int) (b : Nat) (j : Int) : Ordering :=
  compare (a * Nat.pow 10 i.toNat * Nat.pow 2 (-j).toNat)
    (b * Nat.pow 2 j.toNat * Nat.pow 10 (-i).toNat)

/-- The decimal lies between the midpoints to the floats next to `v`; the midpoints
themselves belong to an even significand. -/
def Magnitude.accepts (v : Magnitude) (d : Scaled) : Bool :=
  let low := if v.narrowBelow then 4 * v.significand - 1 else 4 * v.significand - 2
  let below := compareScaled d.digits d.exponent low (v.exponent - 2)
  let above := compareScaled d.digits d.exponent (4 * v.significand + 2) (v.exponent - 2)
  let even := v.significand % 2 == 0
  (below == .gt || (even && below == .eq)) && (above == .lt || (even && above == .eq))

/-- The value divided by `10 ^ k`, rounded down. -/
def Magnitude.floorAt (v : Magnitude) (k : Int) : Nat :=
  (v.significand * Nat.pow 2 v.exponent.toNat * Nat.pow 10 (-k).toNat) /
    (Nat.pow 2 (-v.exponent).toNat * Nat.pow 10 k.toNat)

/-- The closer of the two neighbours of `v` on the grid of `10 ^ k`, of those that read
back as `v`. -/
def Magnitude.candidate? (tie : Tie) (v : Magnitude) (k : Int) : Option Scaled :=
  let floor := v.floorAt k
  let lower : Scaled := ⟨floor, k⟩
  let upper : Scaled := ⟨floor + 1, k⟩
  match v.accepts lower, v.accepts upper with
  | false, false => none
  | true, false => some lower
  | false, true => some upper
  | true, true =>
    -- the middle of the two is compared with the value, in units of half a step
    match compareScaled (5 * (2 * floor + 1)) (k - 1) v.significand v.exponent with
    | .gt => some lower
    | .lt => some upper
    | .eq =>
      match tie with
      | .up => some upper
      | .even => some (if floor % 2 == 0 then lower else upper)

/-- A power of ten that is not below the value. -/
def Magnitude.coarsest (v : Magnitude) : Int :=
  ((v.significand.log2 : Int) + 1 + v.exponent) * 30103 / 100000 + 1

/-- The value written out in full. -/
def Magnitude.exact (v : Magnitude) : Scaled :=
  if v.exponent ≥ 0 then ⟨v.significand * Nat.pow 2 v.exponent.toNat, 0⟩
  else ⟨v.significand * Nat.pow 5 (-v.exponent).toNat, v.exponent⟩

def Magnitude.shortest (tie : Tie) (v : Magnitude) : Scaled :=
  ((List.range 22).findSome? fun (step : Nat) => v.candidate? tie (v.coarsest - step)).getD v.exact

end StaticSite.Decimal
