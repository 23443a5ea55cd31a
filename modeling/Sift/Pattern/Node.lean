import Sift.Pattern.Property
import Sift.Unicode.Folding

/-! # Patterns without flags

The flags of an expression are worked into it: every character class becomes a set of code points and
every anchor a condition on the characters around a place. With Unicode switched off, a pattern must still
match whole characters, which rules out everything that would match a single byte beyond ASCII.
-/
namespace Sift.Pattern
open Unicode

/-- The modes that matter for the meaning of an expression. -/
structure Modes where
  ignoreCase : Bool
  multiLine : Bool
  dotAll : Bool
  unicode : Bool
  crlf : Bool

/-- The modes at the start of a pattern. -/
def Modes.default : Modes := ⟨false, false, false, true, false⟩

def Modes.apply (m : Modes) (change : FlagChange) : Modes where
  ignoreCase := (change.state? .ignoreCase).getD m.ignoreCase
  multiLine := (change.state? .multiLine).getD m.multiLine
  dotAll := (change.state? .dotAll).getD m.dotAll
  unicode := (change.state? .unicode).getD m.unicode
  crlf := (change.state? .crlf).getD m.crlf

inductive Boundary
  | edge
  | notEdge
  | start
  | finish
  | startHalf
  | finishHalf
deriving DecidableEq

/-- Conditions on the characters before and after a place in the text. -/
inductive Look
  | textStart
  | textEnd
  | lineStart (crlf : Bool)
  | lineEnd (crlf : Bool)
  | boundary (kind : Boundary) (unicode : Bool)
deriving DecidableEq

/-- A pattern whose flags have taken effect. -/
inductive Node
  | empty
  | char (c : Char)
  | set (chars : CharSet)
  | look (condition : Look)
  | repeated (body : Node) (least : Nat) (most : Option Nat)
  | capture (body : Node)
  | concat (parts : List Node)
  | alternation (branches : List Node)

namespace Node

/-- The node that matches one character of a set. -/
def ofSet (s : CharSet) : Node :=
  match s.ranges with
  | [(a, b)] => if a = b then .char (Char.ofNat a) else .set s
  | _ => .set s

/-- The set of the single characters that a node matches, if it matches nothing else. -/
def chars? : Node → Option CharSet
  | .char c => some (.singleton c.toNat)
  | .set s => some s
  | _ => none

/-- Branches that each match one character are one set. -/
def ofBranches (branches : List Node) : Node :=
  match branches.mapM chars? with
  | some sets => ofSet (CharSet.unions sets)
  | none => .alternation branches

mutual

/-- Whether a node matches nothing but the empty text. -/
def isEmptyOnly : Node → Bool
  | .empty => true
  | .char _ => false
  | .set _ => false
  | .look _ => true
  | .repeated body _ most => most == some 0 || body.isEmptyOnly
  | .capture body => body.isEmptyOnly
  | .concat parts => allEmptyOnly parts
  | .alternation branches => allEmptyOnly branches

def allEmptyOnly : List Node → Bool
  | [] => true
  | n :: ns => n.isEmptyOnly && allEmptyOnly ns

end

/-- A repetition; what matches only the empty text need not be repeated more than once. -/
def ofRepeated (body : Node) (least : Nat) (most : Option Nat) : Node :=
  let (least, most) := if body.isEmptyOnly then (min least 1, some (min (most.getD 1) 1)) else (least, most)
  if most = some 0 then .empty
  else if least = 1 && most = some 1 then body
  else .repeated body least most

end Node

def Shorthand.asciiChars : Shorthand → CharSet
  | .digit => .ofRanges [(0x30, 0x39)]
  | .space => .ofRanges [(0x09, 0x0D), (0x20, 0x20)]
  | .word => .ofRanges [(0x30, 0x39), (0x41, 0x5A), (0x5F, 0x5F), (0x61, 0x7A)]

def Shorthand.chars : Shorthand → CharSet
  | .digit => Category.decimalNumber
  | .space => whiteSpace
  | .word => Unicode.word

namespace Modes

/-- A set with both cases, if case is ignored. -/
def fold (m : Modes) (s : CharSet) : CharSet :=
  if !m.ignoreCase then s else if m.unicode then s.foldCase else s.foldAsciiCase

/-- The complement of a set, if it is negated. Without Unicode the complement has bytes that are no
characters, so it is refused. -/
def negate? (m : Modes) (negated : Bool) (s : CharSet) : Option CharSet :=
  if !negated then some s else if m.unicode then some s.complement else none

def literal? (m : Modes) (l : Literal) : Option Node :=
  if !m.unicode && l.isByte && 0x80 ≤ l.char.toNat then none
  else some (.ofSet (m.fold (.singleton l.char.toNat)))

def setLiteral? (m : Modes) (l : Literal) : Option Nat :=
  if !m.unicode && 0x80 ≤ l.char.toNat then none else some l.char.toNat

def shorthand? (m : Modes) (negated : Bool) (which : Shorthand) : Option CharSet :=
  m.negate? negated (if m.unicode then which.chars else which.asciiChars)

def property? (m : Modes) (negated : Bool) (p : Property) : Option CharSet :=
  if m.unicode then p.chars?.bind fun s => m.negate? negated (m.fold s) else none

def dot? (m : Modes) : Option CharSet :=
  if !m.unicode then none
  else if m.dotAll then some .full
  else if m.crlf then some (CharSet.ofRanges [(0x0A, 0x0A), (0x0D, 0x0D)]).complement
  else some (CharSet.singleton 0x0A).complement

def look (m : Modes) : Anchor → Look
  | .lineStart => if m.multiLine then .lineStart m.crlf else .textStart
  | .lineEnd => if m.multiLine then .lineEnd m.crlf else .textEnd
  | .textStart => .textStart
  | .textEnd => .textEnd
  | .wordBoundary => .boundary .edge m.unicode
  | .notWordBoundary => .boundary .notEdge m.unicode
  | .wordStart => .boundary .start m.unicode
  | .wordEnd => .boundary .finish m.unicode
  | .wordStartHalf => .boundary .startHalf m.unicode
  | .wordEndHalf => .boundary .finishHalf m.unicode

end Modes

def SetOperation.apply : SetOperation → CharSet → CharSet → CharSet
  | .intersection => CharSet.inter
  | .difference => CharSet.diff
  | .symmetricDifference => CharSet.symmDiff

mutual

/-- The code points of a set. The operands of an operation are folded before it. -/
def SetExpr.chars? (m : Modes) : SetExpr → Option CharSet
  | .union items => SetItem.allChars? m items
  | .binary operation left right => do
    let l ← left.chars? m
    let r ← right.chars? m
    some (operation.apply (m.fold l) (m.fold r))

def SetItem.chars? (m : Modes) : SetItem → Option CharSet
  | .range first last => do
    let a ← m.setLiteral? first
    let b ← m.setLiteral? last
    some (.ofRanges [(a, b)])
  | .ascii negated s => m.negate? negated (m.fold s)
  | .shorthand negated which => m.shorthand? negated which
  | .property negated p => m.property? negated p
  | .nested negated inner => do
    let s ← inner.chars? m
    m.negate? negated (m.fold s)

def SetItem.allChars? (m : Modes) : List SetItem → Option CharSet
  | [] => some .empty
  | item :: items => do
    let s ← item.chars? m
    let t ← SetItem.allChars? m items
    some (s.union t)

end

mutual

/-- The node of an expression, and the modes for what follows it in the same group. -/
def Expr.node? (m : Modes) : Expr → Option (Node × Modes)
  | .flags change => some (.empty, m.apply change)
  | .literal l => (m.literal? l).map (·, m)
  | .dot => m.dot?.map fun s => (.set s, m)
  | .anchor a => some (.look (m.look a), m)
  | .shorthand negated which => (m.shorthand? negated which).map fun s => (.ofSet s, m)
  | .property negated p => (m.property? negated p).map fun s => (.ofSet s, m)
  | .set negated inner => do
    let s ← inner.chars? m
    let s ← m.negate? negated (m.fold s)
    some (.ofSet s, m)
  | .repeated body least most => do
    let (n, m) ← body.node? m
    some (.ofRepeated n least most, m)
  | .capture body => do
    let (n, _) ← body.node? m
    some (.capture n, m)
  | .group change body => do
    let (n, _) ← body.node? (m.apply change)
    some (n, m)
  | .concat parts => do
    let (ns, m) ← Expr.nodes? m parts
    some (.concat ns, m)
  | .alternation branches => do
    let (ns, m) ← Expr.nodes? m branches
    some (.ofBranches ns, m)

def Expr.nodes? (m : Modes) : List Expr → Option (List Node × Modes)
  | [] => some ([], m)
  | e :: es => do
    let (n, m) ← e.node? m
    let (ns, m) ← Expr.nodes? m es
    some (n :: ns, m)

end

end Sift.Pattern
