import Sift.Binary64.Basic

/-! # Rounding to double precision

A ratio of natural numbers is rounded to the nearest magnitude, a tie to the even one, in exact
arithmetic. The ratio is counted in units; beyond 53 bits the count is rounded in steps of a power of
two, and the step's exponent and the rounded count add up to the magnitude, a carry included. What
passes the largest finite double becomes infinity.
-/
namespace Sift.Binary64

/-- A quotient rounded to the nearest natural number, a tie to the even one. -/
def roundDiv (n d : Nat) : Nat :=
  let q := n / d
  let r := n % d
  if 2 * r < d || (2 * r == d && q % 2 == 0) then q else q + 1

/-- The magnitude nearest to `n / d`. -/
def magnitudeOfRatio (n d : Nat) : Nat :=
  let count := n * unitsPerOne
  let step := Nat.log2 (count / d) - 52
  min (step * Nat.pow 2 52 + roundDiv count (d * Nat.pow 2 step)) infinityMagnitude

/-- The magnitude nearest to `m * 10 ^ e`. -/
def magnitudeOfDecimal (m : Nat) (e : Int) : Nat :=
  if 0 ≤ e then magnitudeOfRatio (m * Nat.pow 10 e.toNat) 1
  else magnitudeOfRatio m (Nat.pow 10 (-e).toNat)

/-- How many decimal digits a natural number has. -/
def digitCount (n : Nat) : Nat := (Nat.toDigits 10 n).length

/-- The double nearest to `± m * 10 ^ e`. Values far outside the range of doubles are settled by their
first digit's place, so that the exponent may be as large as a text can write it. -/
def ofDecimal (negative : Bool) (m : Nat) (e : Int) : Binary64 :=
  let place := (digitCount m : Int) + e
  ofMagnitude negative <|
    if m = 0 || place < -400 then 0
    else if 400 < place then infinityMagnitude
    else magnitudeOfDecimal m e

def ofInt (i : Int) : Binary64 := ofMagnitude (i < 0) (magnitudeOfRatio i.natAbs 1)

end Sift.Binary64
