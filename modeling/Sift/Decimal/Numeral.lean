import Sift.Binary64.Rounding

/-! # Numerals

Reading numbers that are written with digits: natural numbers in a radix, and decimal numerals with an
optional point and exponent. A numeral keeps the exact number it denotes; rounding to a double is a
separate step.
-/
namespace Sift

/-- The value of a digit in a radix up to sixteen; both cases of the letters are digits. -/
def digitValue? (radix : Nat) (c : Char) : Option Nat :=
  let v :=
    if '0' ≤ c && c ≤ '9' then c.toNat - '0'.toNat
    else if 'a' ≤ c && c ≤ 'f' then c.toNat - 'a'.toNat + 10
    else if 'A' ≤ c && c ≤ 'F' then c.toNat - 'A'.toNat + 10
    else 16
  if v < radix then some v else none

/-- The natural number that a non-empty list of digits denotes. -/
def natOfDigits? (radix : Nat) : List Char → Option Nat
  | [] => none
  | cs => cs.foldlM (fun n c => (digitValue? radix c).map (n * radix + ·)) 0

/-- The number `± mantissa * 10 ^ exponent`. -/
structure Numeral where
  negative : Bool
  mantissa : Nat
  exponent : Int
deriving DecidableEq

namespace Numeral

def toBinary64 (x : Numeral) : Binary64 := Binary64.ofDecimal x.negative x.mantissa x.exponent

/-- The value of decimal digits; other characters do not occur in them. -/
def ofDigits (cs : List Char) : Nat := cs.foldl (fun n c => 10 * n + (c.toNat - '0'.toNat)) 0

/-- The digits at the front of a text, and what follows them. -/
def takeDigits (cs : List Char) : List Char × List Char := (cs.takeWhile Char.isDigit, cs.dropWhile Char.isDigit)

/-- Whether there is a minus sign, and the text after the optional sign. -/
def takeSign : List Char → Bool × List Char
  | '-' :: rest => (true, rest)
  | '+' :: rest => (false, rest)
  | cs => (false, cs)

/-- The numeral with these digits before and after the point and this power of ten. -/
def ofParts (negative : Bool) (whole fraction : List Char) (power : Int) : Numeral :=
  ⟨negative, ofDigits (whole ++ fraction), power - fraction.length⟩

/-- An optional exponent, `e` and a signed row of digits, and what follows it. A letter `e` without
digits is an error. -/
def takePower? : List Char → Option (Int × List Char)
  | [] => some (0, [])
  | c :: rest =>
    if c = 'e' || c = 'E' then
      let (negative, rest) := takeSign rest
      match takeDigits rest with
      | ([], _) => none
      | (ds, rest) => some (if negative then -(ofDigits ds : Int) else ofDigits ds, rest)
    else some (0, c :: rest)

/-- The numeral that a whole text denotes: an optional sign, digits with an optional point and at least
one digit, and an optional exponent. -/
def parse? (cs : List Char) : Option Numeral :=
  let (negative, cs) := takeSign cs
  let (whole, cs) := takeDigits cs
  let (fraction, cs) := match cs with
    | '.' :: rest => takeDigits rest
    | cs => ([], cs)
  if whole.isEmpty && fraction.isEmpty then none
  else match takePower? cs with
    | some (power, []) => some (ofParts negative whole fraction power)
    | _ => none

end Numeral
end Sift
