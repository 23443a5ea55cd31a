import Sift.Pattern.Node

/-! # Matching

A row marks places of a text, one truth value for each place between two characters and for both ends. A
node takes the places where a match may begin to the places where one can end: a character moves marks
one place on, a condition erases marks, branches are joined, and a repetition is applied over and over. A
text contains a match if, with every place marked at first, any mark is left.
-/
namespace Sift.Pattern
open Unicode

/-- Marks at the places of a text. -/
abbrev Row := List Bool

/-- The places that are marked in both rows. -/
def Row.both (r s : Row) : Row := List.zipWith (· && ·) r s

/-- The places that are marked in one of two rows. -/
def Row.either (r s : Row) : Row := List.zipWith (· || ·) r s

/-- The characters before and after each place of a text. -/
def placesFrom (before : Option Char) : List Char → List (Option Char × Option Char)
  | [] => [(before, none)]
  | c :: cs => (before, some c) :: placesFrom (some c) cs

/-- Whether a character belongs to a word. -/
def isWordChar (unicode : Bool) : Option Char → Bool
  | none => false
  | some c => (if unicode then word else Shorthand.asciiChars .word).contains c.toNat

def Boundary.holds (before after : Bool) : Boundary → Bool
  | .edge => before != after
  | .notEdge => before == after
  | .start => !before && after
  | .finish => before && !after
  | .startHalf => !before
  | .finishHalf => !after

/-- Whether a condition holds between two characters. -/
def Look.holds (before after : Option Char) : Look → Bool
  | .textStart => before.isNone
  | .textEnd => after.isNone
  | .lineStart false => before.isNone || before == some '\n'
  | .lineEnd false => after.isNone || after == some '\n'
  | .lineStart true => before.isNone || before == some '\n' || (before == some '\r' && after != some '\n')
  | .lineEnd true => after.isNone || after == some '\r' || (after == some '\n' && before != some '\r')
  | .boundary kind unicode => kind.holds (isWordChar unicode before) (isWordChar unicode after)

/-- Applies a step a number of times; it stops when nothing changes any more. -/
def times (step : Row → Row) : Nat → Row → Row
  | 0, row => row
  | n + 1, row =>
    let next := step row
    if next == row then row else times step n next

/-- Applies a step up to a number of times and joins all results. -/
def upTo (step : Row → Row) : Nat → Row → Row
  | 0, row => row
  | n + 1, row =>
    let next := row.either (step row)
    if next == row then row else upTo step n next

mutual

/-- The places where a match can end, for the places where it may begin. -/
def Node.run (text : List Char) : Node → Row → Row
  | .empty, row => row
  | .char c, row => false :: row.both (text.map (· == c))
  | .set s, row => false :: row.both (text.map fun c => s.contains c.toNat)
  | .look condition, row =>
    row.both ((placesFrom none text).map fun (before, after) => condition.holds before after)
  | .repeated body least most, row =>
    let row := times (body.run text) least row
    upTo (body.run text) (match most with
      | some most => most - least
      | none => row.length) row
  | .capture body, row => body.run text row
  | .concat parts, row => Node.runAll text parts row
  | .alternation branches, row => Node.runAny text branches row

def Node.runAll (text : List Char) : List Node → Row → Row
  | [], row => row
  | n :: ns, row => Node.runAll text ns (n.run text row)

def Node.runAny (text : List Char) : List Node → Row → Row
  | [], row => row.map fun _ => false
  | n :: ns, row => (n.run text row).either (Node.runAny text ns row)

end

def Node.isMatch (n : Node) (text : List Char) : Bool :=
  (n.run text (List.replicate (text.length + 1) true)).any id

end Sift.Pattern
