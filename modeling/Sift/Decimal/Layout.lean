import Sift.Decimal.Shortest

/-! # Written doubles

A double is written with its shortest digits, positionally or with an exponent. What differs between
the formats (where positional notation ends, whether a whole number keeps a point, the sign of the
exponent, the choice at a tie) is gathered in one record per format.
-/
namespace Sift.Decimal

structure Layout where
  /-- The exponents of the first digit that are written positionally. -/
  positional : Int → Bool
  /-- Whether a whole number ends in `.0`. -/
  keepsPoint : Bool
  /-- Whether a positive exponent has a plus sign. -/
  plusSign : Bool
  tie : Tie

/-- Whole part and fraction of the digits whose first one has the exponent `lead`. -/
def wholeAndFraction (digits : List Char) (lead : Int) : List Char × List Char :=
  if lead < 0 then (['0'], List.replicate (-lead - 1).toNat '0' ++ digits)
  else
    let n := lead.toNat + 1
    (digits.take n ++ List.replicate (n - digits.length) '0', digits.drop n)

def writePositional (keepsPoint : Bool) (digits : List Char) (lead : Int) : List Char :=
  match wholeAndFraction digits lead with
  | (whole, []) => if keepsPoint then whole ++ ['.', '0'] else whole
  | (whole, fraction) => whole ++ '.' :: fraction

def writeScientific (plusSign : Bool) (digits : List Char) (lead : Int) : List Char :=
  let significand := match digits with
    | [] => ['0']
    | [d] => [d]
    | d :: ds => d :: '.' :: ds
  let sign := if lead < 0 then ['-'] else if plusSign then ['+'] else []
  significand ++ 'e' :: sign ++ Nat.toDigits 10 lead.natAbs

def Layout.write (layout : Layout) (x : Binary64) : List Char :=
  let sign := if x.isNegative then ['-'] else []
  let body :=
    if x.magnitude = 0 then writePositional layout.keepsPoint ['0'] 0
    else
      let d := shortest layout.tie x.magnitude
      if layout.positional d.lead then writePositional layout.keepsPoint d.significant d.lead
      else writeScientific layout.plusSign d.significant d.lead
  sign ++ body

end Sift.Decimal
