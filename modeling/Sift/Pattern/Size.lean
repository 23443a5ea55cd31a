import Sift.Pattern.Node

/-! # Sizes of patterns

A pattern is refused when the automaton that reads the bytes of a text for it would take up too much room,
in one of the two directions of reading. This module counts that room without building the automaton. A
set of characters is read as a tree of ranges of bytes; forward, equal parts of the tree are shared, and
backward only what its paths have in common at their start.
-/
namespace Sift.Pattern
open Unicode

abbrev ByteRow := List (Nat × Nat)

/-- The rows of continuation bytes, `n + 1` of them, whose values are in a range. -/
def continuationRows : Nat → Nat → Nat → List ByteRow
  | 0, lo, hi => [[(0x80 + lo, 0x80 + hi)]]
  | n + 1, lo, hi =>
    let unit := Nat.pow 64 (n + 1)
    let (a, b) := (lo / unit, hi / unit)
    if a = b then (continuationRows n (lo % unit) (hi % unit)).map ((0x80 + a, 0x80 + a) :: ·)
    else
      let cutsLow := lo % unit ≠ 0
      let cutsHigh := hi % unit ≠ unit - 1
      let low := if cutsLow then
          (continuationRows n (lo % unit) (unit - 1)).map ((0x80 + a, 0x80 + a) :: ·)
        else []
      let high := if cutsHigh then
          (continuationRows n 0 (hi % unit)).map ((0x80 + b, 0x80 + b) :: ·)
        else []
      let first := if cutsLow then a + 1 else a
      let last := if cutsHigh then b - 1 else b
      let middle := if first ≤ last then
          (continuationRows n 0 (unit - 1)).map ((0x80 + first, 0x80 + last) :: ·)
        else []
      low ++ middle ++ high

/-- The rows with a first byte whose mark takes the place of the continuation mark. -/
def markFirst (mark : Nat) : ByteRow → ByteRow
  | [] => []
  | (a, b) :: rest => (a - 0x80 + mark, b - 0x80 + mark) :: rest

/-- The stretches of code points whose encodings have one length: first and last one, the number of
continuation bytes, and the mark of the first byte. Surrogates are in none. -/
def encodedStretches : List (Nat × Nat × Nat × Nat) :=
  [(0, 0x7F, 0, 0), (0x80, 0x7FF, 1, 0xC0), (0x800, 0xD7FF, 2, 0xE0), (0xE000, 0xFFFF, 2, 0xE0),
   (0x10000, 0x10FFFF, 3, 0xF0)]

/-- The rows of byte ranges that encode the code points of a range, in increasing order. -/
def byteRows (range : Nat × Nat) : List ByteRow :=
  encodedStretches.flatMap fun (first, last, n, mark) =>
    let (lo, hi) := (max range.1 first, min range.2 last)
    if lo ≤ hi then (continuationRows n lo hi).map (markFirst mark) else []

/-- Rows that begin alike, next to each other, with their tails together. -/
def groupByFirst : List ByteRow → List ((Nat × Nat) × List ByteRow)
  | [] => []
  | [] :: rows => groupByFirst rows
  | (first :: tail) :: rows => match groupByFirst rows with
    | [] => [(first, [tail])]
    | (next, tails) :: groups =>
      if first = next then (next, tail :: tails) :: groups else (first, [tail]) :: (next, tails) :: groups

/-- A state of a forward automaton: ranges of bytes and the number of the state that each leads to. -/
abbrev ByteState := List ((Nat × Nat) × Nat)

mutual

/-- The number of the state that reads some rows, among the states found so far and perhaps new ones. The
state after the last byte has the number zero. -/
def addState : Nat → List ByteRow → List ByteState → Nat × List ByteState
  | 0, _, states => (0, states)
  | n + 1, rows, states =>
    if rows.all List.isEmpty then (0, states)
    else
      let (state, states) := addEdges n (groupByFirst rows) states
      match states.idxOf? state with
      | some i => (states.length - i, states)
      | none => (states.length + 1, state :: states)

def addEdges : Nat → List ((Nat × Nat) × List ByteRow) → List ByteState → ByteState × List ByteState
  | _, [], states => ([], states)
  | n, (first, tails) :: groups, states =>
    let (target, states) := addState n tails states
    let (edges, states) := addEdges n groups states
    ((first, target) :: edges, states)

end

/-- The room that a state takes, without its edges. -/
def stateSize : Nat := 32

/-- The room of an edge that is labelled with a range of bytes. -/
def edgeSize : Nat := 8

/-- The room of an edge without a label. -/
def branchSize : Nat := 4

/-- The directions in which a text can be read. -/
inductive Direction
  | forward
  | backward
deriving DecidableEq

/-- How many entries two rows have in common at their start. -/
def commonStart : ByteRow → ByteRow → Nat
  | a :: as, b :: bs => if a = b then commonStart as bs + 1 else 0
  | _, _ => 0

/-- How many entries of some rows are not shared with the row before. -/
def unshared (before : ByteRow) : List ByteRow → Nat
  | [] => 0
  | row :: rows => row.length - commonStart before row + unshared row rows

/-- The room for a set of characters. A set of ASCII characters takes one state and one after it. -/
def setSize (direction : Direction) (s : CharSet) : Nat :=
  if s.isAscii then 2 * stateSize + edgeSize * s.ranges.length
  else
    let rows := s.ranges.flatMap byteRows
    match direction with
    | .forward =>
      let (_, states) := addState 5 rows []
      stateSize * (states.length + 1) + edgeSize * states.flatten.length
    | .backward => stateSize * (unshared [] rows + 2) + branchSize * rows.length

/-- The room for a repetition of a body of some size. -/
def repeatedSize (body least : Nat) (most : Option Nat) : Nat :=
  match most with
  | none =>
    if least = 0 then body + stateSize + 2 * branchSize
    else least * body + stateSize + 2 * branchSize
  | some most =>
    let optional := (most - least) * (body + stateSize + 2 * branchSize)
    let after := if most = least then 0 else stateSize
    let before := if least = 0 then stateSize else least * body
    if least = 0 && most = 1 then body + 2 * stateSize + 2 * branchSize else before + optional + after

mutual

/-- The room that a node takes. Matches of groups are remembered in the forward direction only. -/
def Node.size (direction : Direction) : Node → Nat
  | .empty => stateSize
  | .char c => stateSize * c.utf8Size
  | .set s => setSize direction s
  | .look _ => stateSize
  | .repeated body least most => repeatedSize (body.size direction) least most
  | .capture body => body.size direction + if direction = .forward then 2 * stateSize else 0
  | .concat [] => stateSize
  | .concat (part :: parts) => part.size direction + Node.sizes direction parts
  | .alternation branches =>
    2 * stateSize + branchSize * branches.length + Node.sizes direction branches

def Node.sizes (direction : Direction) : List Node → Nat
  | [] => 0
  | n :: ns => n.size direction + Node.sizes direction ns

end

/-- The largest automaton that is allowed, in bytes. -/
def sizeLimit : Nat := 10 * Nat.pow 2 20

/-- The room around a pattern: for the search of its start and for the end of the match. -/
def frameSize : Nat := 4 * stateSize + edgeSize + 2 * branchSize

/-- Whether a pattern's automaton is small enough in both directions. -/
def Node.fits (n : Node) : Bool :=
  [Direction.forward, .backward].all fun d => decide ((Node.capture n).size d + frameSize ≤ sizeLimit)

end Sift.Pattern
