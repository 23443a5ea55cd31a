import Sift.Decimal.Numeral

/-! # Sets of code points

A set of code points is a list of ranges in increasing order that neither overlap nor touch, so that it
is as short as possible. Every set is built by sorting and joining ranges; the other operations are made
of union and complement.
-/
namespace Sift.Unicode

def maxCodePoint : Nat := 0x10FFFF

/-- A set of code points, as ranges with both ends included. -/
structure CharSet where
  ranges : List (Nat × Nat)
deriving DecidableEq

namespace CharSet

/-- Joins ranges that overlap or touch; they are sorted, and `current` is the one that may still grow. -/
def joinFrom (current : Nat × Nat) : List (Nat × Nat) → List (Nat × Nat)
  | [] => [current]
  | r :: rest =>
    if r.1 ≤ current.2 + 1 then joinFrom (current.1, max current.2 r.2) rest
    else current :: joinFrom r rest

/-- The set of the code points in some ranges. -/
def ofRanges (ranges : List (Nat × Nat)) : CharSet :=
  match ranges.mergeSort fun r s => decide (r.1 ≤ s.1) with
  | [] => ⟨[]⟩
  | r :: rest => ⟨joinFrom r rest⟩

def empty : CharSet := ⟨[]⟩

def full : CharSet := ⟨[(0, maxCodePoint)]⟩

def singleton (n : Nat) : CharSet := ⟨[(n, n)]⟩

/-- Whether a code point is in one of the ranges; the search ends at the first range after it. -/
def containsIn (n : Nat) : List (Nat × Nat) → Bool
  | [] => false
  | (a, b) :: rest => if n < a then false else if n ≤ b then true else containsIn n rest

def contains (s : CharSet) (n : Nat) : Bool := containsIn n s.ranges

/-- The ranges between some ranges, from a code point on. -/
def gapsFrom (start : Nat) : List (Nat × Nat) → List (Nat × Nat)
  | [] => if start ≤ maxCodePoint then [(start, maxCodePoint)] else []
  | (a, b) :: rest =>
    if start < a then (start, a - 1) :: gapsFrom (b + 1) rest else gapsFrom (b + 1) rest

def complement (s : CharSet) : CharSet := ⟨gapsFrom 0 s.ranges⟩

def union (s t : CharSet) : CharSet := ofRanges (s.ranges ++ t.ranges)

def unions (sets : List CharSet) : CharSet := ofRanges (sets.flatMap ranges)

def inter (s t : CharSet) : CharSet := (s.complement.union t.complement).complement

def diff (s t : CharSet) : CharSet := s.inter t.complement

/-- What is in exactly one of two sets. -/
def symmDiff (s t : CharSet) : CharSet := (s.union t).diff (s.inter t)

def isAscii (s : CharSet) : Bool := s.ranges.all fun r => decide (r.2 ≤ 0x7F)

def isEmpty (s : CharSet) : Bool := s.ranges.isEmpty

/-- The ranges written in a text: hexadecimal code points, two with a hyphen between them or a single
one, with spaces between the ranges. -/
def rangesOfText (text : String) : List (Nat × Nat) :=
  (text.split ' ').toList.filterMap fun word =>
    match (word.split '-').toList.map fun digits => natOfDigits? 16 digits.copy.toList with
    | [some a, some b] => some (a, b)
    | [some a] => some (a, a)
    | _ => none

/-- The set of the ranges written in some texts. -/
def ofTexts (texts : List String) : CharSet := ofRanges (texts.flatMap rangesOfText)

end CharSet
end Sift.Unicode
