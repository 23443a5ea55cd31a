import Sift.Binary64.Rounding

/-! # Shortest decimals

The shortest decimal of a double has the fewest digits among those that read back as the same double,
and of these it is the nearest. For one digit, two digits and so on the two neighbours of the value on
the grid of that many digits are read back; the first grid with a hit wins. Where both neighbours are
equally near, the writer's format says which one is taken.
-/
namespace Sift

/-- The decimal number `digits * 10 ^ exponent`. -/
structure Decimal where
  digits : Nat
  exponent : Int
deriving DecidableEq

namespace Decimal
open Binary64

/-- Which of two equally near decimals is written. -/
inductive Tie
  | toEven
  | up
deriving DecidableEq

/-- A value is enlarged by this power of ten, so that its integral part is long enough to be counted. -/
def countedPlaces : Nat := 350

/-- The exponent of the first digit of a positive magnitude's value. -/
def leadingExponent (magnitude : Nat) : Int :=
  (digitCount (units magnitude * Nat.pow 10 countedPlaces / unitsPerOne) : Int) - (countedPlaces + 1)

/-- The neighbour of the exponent `e` that reads back as the magnitude, the nearer one if both do. -/
def neighbour? (tie : Tie) (magnitude : Nat) (e : Int) : Option Decimal :=
  let (num, den) :=
    if 0 ≤ e then (units magnitude, unitsPerOne * Nat.pow 10 e.toNat)
    else (units magnitude * Nat.pow 10 (-e).toNat, unitsPerOne)
  let low := num / den
  let twice := 2 * (num % den)
  let high? := decide (magnitudeOfDecimal (low + 1) e = magnitude)
  if magnitudeOfDecimal low e = magnitude then
    let preferHigh := den < twice || (twice == den && (tie == .up || low % 2 == 1))
    some ⟨if high? && preferHigh then low + 1 else low, e⟩
  else if high? then some ⟨low + 1, e⟩ else none

/-- The neighbour with `n` digits. -/
def onGrid? (tie : Tie) (magnitude n : Nat) : Option Decimal :=
  neighbour? tie magnitude (leadingExponent magnitude - n + 1)

/-- The decimal that is exactly the value of a magnitude: a unit is `5 ^ 1074 * 10 ^ -1074`. -/
def exact (magnitude : Nat) : Decimal := ⟨units magnitude * Nat.pow 5 1074, -1074⟩

/-- The shortest decimal of a positive finite magnitude. Seventeen digits are enough for every double, so
that the exact decimal behind them only makes sure that the answer reads back. -/
def shortest (tie : Tie) (magnitude : Nat) : Decimal :=
  ((List.range' 1 17).findSome? (onGrid? tie magnitude)).getD (exact magnitude)

/-- The significant digits, without the zeros at the end. -/
def significant (d : Decimal) : List Char :=
  ((Nat.toDigits 10 d.digits).reverse.dropWhile (· == '0')).reverse

def lead (d : Decimal) : Int := (digitCount d.digits : Int) - 1 + d.exponent

end Decimal
end Sift
