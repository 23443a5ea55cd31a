/-! # Double precision numbers

A double precision number is its word of 64 bits, so that a not-a-number keeps its payload. Its low 63
bits are its magnitude: read as a natural number they grow with the value, and `units` gives that value
exactly, counted in the smallest positive double `2 ^ -1074`. Infinity has the count that would follow
the largest finite double, so one order on counts covers all but the not-a-numbers.
-/
namespace Sift

/-- A double precision number, as its word. -/
structure Binary64 where
  bits : UInt64
deriving DecidableEq

namespace Binary64

/-- The magnitude of infinity; those above it are the not-a-numbers. -/
def infinityMagnitude : Nat := 0x7FF * Nat.pow 2 52

/-- How often the smallest positive double goes into the value of a magnitude. -/
def units (magnitude : Nat) : Nat :=
  if magnitude < Nat.pow 2 52 then magnitude
  else (Nat.pow 2 52 + magnitude % Nat.pow 2 52) * Nat.pow 2 (magnitude / Nat.pow 2 52 - 1)

def unitsPerOne : Nat := Nat.pow 2 1074

def magnitude (x : Binary64) : Nat := x.bits.toNat % Nat.pow 2 63

def isNegative (x : Binary64) : Bool := Nat.pow 2 63 ≤ x.bits.toNat

def isNaN (x : Binary64) : Bool := infinityMagnitude < x.magnitude

def isInfinite (x : Binary64) : Bool := x.magnitude == infinityMagnitude

def isFinite (x : Binary64) : Bool := x.magnitude < infinityMagnitude

/-- The value counted in units, with its sign; both zeros count none. -/
def scaled (x : Binary64) : Int :=
  if x.isNegative then -(units x.magnitude : Int) else units x.magnitude

/-- The double with this sign and magnitude. -/
def ofMagnitude (negative : Bool) (magnitude : Nat) : Binary64 :=
  ⟨UInt64.ofNat (magnitude % Nat.pow 2 63 + if negative then Nat.pow 2 63 else 0)⟩

/-- The order by value; a not-a-number has no place in it, and the two zeros are equal. -/
def compare? (x y : Binary64) : Option Ordering :=
  if x.isNaN || y.isNaN then none else some (compare x.scaled y.scaled)

/-- Whether the value is finite and has no fraction. -/
def isWhole (x : Binary64) : Bool := x.isFinite && x.scaled % unitsPerOne == 0

/-- The value of a whole double; fractions are dropped. -/
def whole (x : Binary64) : Int := x.scaled.tdiv unitsPerOne

end Binary64
end Sift
