import Sift.Decimal.Layout
import Sift.Decimal.Numeral

/-! # Numbers

A number is a signed word, an unsigned word or a double. Integers compare exactly, whatever their
signs; as soon as a double takes part both sides are read as doubles. The text of a whole double is the
text of the integer, below the magnitude where that stops being natural.
-/
namespace Sift

/-- A number as it takes part in comparisons. -/
inductive Number
  | signed (n : Int64)
  | unsigned (n : UInt64)
  | float (x : Binary64)
deriving DecidableEq

def integerText (i : Int) : List Char :=
  (if i < 0 then ['-'] else []) ++ Nat.toDigits 10 i.natAbs

namespace Number

/-- The integer, of the two integral kinds. -/
def toInt? : Number → Option Int
  | signed n => some n.toInt
  | unsigned n => some n.toNat
  | float _ => none

/-- The number of an integer that one of the words holds; the signed word goes first. -/
def ofInt? (i : Int) : Option Number :=
  if -(Nat.pow 2 63 : Int) ≤ i && i < Nat.pow 2 63 then some (signed (Int64.ofInt i))
  else if 0 ≤ i && i < Nat.pow 2 64 then some (unsigned (UInt64.ofNat i.toNat))
  else none

def ofNat (n : Nat) : Number := (ofInt? n).getD (float (Binary64.ofInt n))

def toBinary64 : Number → Binary64
  | signed n => Binary64.ofInt n.toInt
  | unsigned n => Binary64.ofInt n.toNat
  | float x => x

/-- The order of two numbers; there is none when one of them is not a number. -/
def compare? (a b : Number) : Option Ordering :=
  match a.toInt?, b.toInt? with
  | some i, some j => some (compare i j)
  | _, _ => a.toBinary64.compare? b.toBinary64

/-- Plain text never has an exponent, and a whole number has no point. -/
def plainLayout : Decimal.Layout where
  positional _ := true
  keepsPoint := false
  plusSign := false
  tie := .up

/-- Whole doubles below this magnitude are written as integers. -/
def wholeTextLimit : Nat := Nat.pow 10 15

def floatText (x : Binary64) : List Char :=
  if x.isNaN then ['N', 'a', 'N']
  else if x.isInfinite then if x.isNegative then ['-', 'i', 'n', 'f'] else ['i', 'n', 'f']
  else if x.isWhole && x.whole.natAbs < wholeTextLimit then integerText x.whole
  else plainLayout.write x

/-- The text of a number, as it takes part in text comparisons. -/
def toText : Number → String
  | signed n => String.ofList (integerText n.toInt)
  | unsigned n => String.ofList (integerText n.toNat)
  | float x => String.ofList (floatText x)

/-- The numbers that JSON has: integers in one form only, and finite doubles. -/
def IsJson : Number → Prop
  | signed _ => True
  | unsigned n => Nat.pow 2 63 ≤ n.toNat
  | float x => x.isFinite = true

instance : (n : Number) → Decidable n.IsJson
  | signed _ => inferInstanceAs (Decidable True)
  | unsigned n => inferInstanceAs (Decidable (Nat.pow 2 63 ≤ n.toNat))
  | float x => inferInstanceAs (Decidable (x.isFinite = true))

end Number
end Sift
