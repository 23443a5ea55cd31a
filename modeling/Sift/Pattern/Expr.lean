import Sift.Unicode.CharSet

/-! # Pattern expressions

The expressions that a pattern's text is read as, before flags take effect. Whether a repetition is greedy
is not kept: it never changes which texts contain a match.
-/
namespace Sift.Pattern
open Unicode

/-- The modes that a pattern can switch. -/
inductive Flag
  | ignoreCase
  /-- The line anchors match at line breaks too. -/
  | multiLine
  | dotAll
  | swapGreed
  /-- Classes and boundaries are those of Unicode. -/
  | unicode
  /-- A carriage return belongs to a line break. -/
  | crlf
  /-- Blanks and comments in the pattern do not count. -/
  | extended
deriving DecidableEq

/-- The flags that a group or a directive switches on and off. -/
structure FlagChange where
  on : List Flag
  off : List Flag

/-- What a change says about one flag. -/
def FlagChange.state? (change : FlagChange) (flag : Flag) : Option Bool :=
  if change.on.contains flag then some true
  else if change.off.contains flag then some false
  else none

/-- Conditions on a place in the text. -/
inductive Anchor
  | lineStart
  | lineEnd
  | textStart
  | textEnd
  | wordBoundary
  | notWordBoundary
  | wordStart
  | wordEnd
  | wordStartHalf
  | wordEndHalf
deriving DecidableEq

inductive Shorthand
  | digit
  | space
  | word
deriving DecidableEq

/-- A character that stands for itself. One that is written with two hexadecimal digits stands for a byte
when Unicode is switched off. -/
structure Literal where
  char : Char
  isByte : Bool

/-- A property of characters, as it is written. -/
inductive Property
  | named (name : List Char)
  | valued (name value : List Char)

inductive SetOperation
  | intersection
  | difference
  | symmetricDifference
deriving DecidableEq

mutual

/-- What stands between the brackets of a set. -/
inductive SetExpr
  | union (items : List SetItem)
  | binary (operation : SetOperation) (left right : SetExpr)

inductive SetItem
  | range (first last : Literal)
  | ascii (negated : Bool) (chars : CharSet)
  | shorthand (negated : Bool) (which : Shorthand)
  | property (negated : Bool) (property : Property)
  | nested (negated : Bool) (chars : SetExpr)

end

inductive Expr
  /-- A switch of flags for what follows in the same group. -/
  | flags (change : FlagChange)
  | literal (literal : Literal)
  | dot
  | anchor (anchor : Anchor)
  | shorthand (negated : Bool) (which : Shorthand)
  | property (negated : Bool) (property : Property)
  | set (negated : Bool) (chars : SetExpr)
  | repeated (body : Expr) (least : Nat) (most : Option Nat)
  | capture (body : Expr)
  /-- A group with flags of its own. -/
  | group (change : FlagChange) (body : Expr)
  | concat (parts : List Expr)
  | alternation (branches : List Expr)

mutual

def SetExpr.depth : SetExpr → Nat
  | .union [] => 0
  | .union [item] => item.depth
  | .union (item :: items) => 1 + max item.depth (SetItem.depthAll items)
  | .binary _ left right => 1 + max left.depth right.depth

def SetItem.depth : SetItem → Nat
  | .nested _ inner => 1 + inner.depth
  | _ => 0

def SetItem.depthAll : List SetItem → Nat
  | [] => 0
  | item :: items => max item.depth (SetItem.depthAll items)

end

mutual

def Expr.depth : Expr → Nat
  | .set _ inner => 1 + inner.depth
  | .repeated body _ _ => 1 + body.depth
  | .capture body => 1 + body.depth
  | .group _ body => 1 + body.depth
  | .concat [] => 0
  | .concat (part :: parts) => 1 + max part.depth (Expr.depthAll parts)
  | .alternation branches => 1 + Expr.depthAll branches
  | _ => 0

def Expr.depthAll : List Expr → Nat
  | [] => 0
  | e :: es => max e.depth (Expr.depthAll es)

end

end Sift.Pattern
