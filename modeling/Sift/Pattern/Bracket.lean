import Sift.Pattern.Escape

/-! # Sets in brackets

A set has characters, ranges, classes and sets inside it, joined by union or by the operations between
them. A hyphen, and after it a closing bracket, stands for itself at the start of a set.
-/
namespace Sift.Pattern.Reader
open Unicode

def asciiClass? (name : List Char) : Option CharSet :=
  match String.ofList name with
  | "alnum" => some (.ofRanges [(0x30, 0x39), (0x41, 0x5A), (0x61, 0x7A)])
  | "alpha" => some (.ofRanges [(0x41, 0x5A), (0x61, 0x7A)])
  | "ascii" => some (.ofRanges [(0, 0x7F)])
  | "blank" => some (.ofRanges [(0x09, 0x09), (0x20, 0x20)])
  | "cntrl" => some (.ofRanges [(0, 0x1F), (0x7F, 0x7F)])
  | "digit" => some (.ofRanges [(0x30, 0x39)])
  | "graph" => some (.ofRanges [(0x21, 0x7E)])
  | "lower" => some (.ofRanges [(0x61, 0x7A)])
  | "print" => some (.ofRanges [(0x20, 0x7E)])
  | "punct" => some (.ofRanges [(0x21, 0x2F), (0x3A, 0x40), (0x5B, 0x60), (0x7B, 0x7E)])
  | "space" => some (.ofRanges [(0x09, 0x0D), (0x20, 0x20)])
  | "upper" => some (.ofRanges [(0x41, 0x5A)])
  | "word" => some (.ofRanges [(0x30, 0x39), (0x41, 0x5A), (0x5F, 0x5F), (0x61, 0x7A)])
  | "xdigit" => some (.ofRanges [(0x30, 0x39), (0x41, 0x46), (0x61, 0x66)])
  | _ => none

/-- A named class at the front of a text, and what follows it. -/
def namedClass? (cs : List Char) : Option (SetItem × List Char) :=
  match cs with
  | '[' :: ':' :: rest =>
    let (negated, rest) := match rest with
      | '^' :: rest => (true, rest)
      | rest => (false, rest)
    match rest.dropWhile (· ≠ ':') with
    | ':' :: ']' :: after => (asciiClass? (rest.takeWhile (· ≠ ':'))).map fun s => (.ascii negated s, after)
    | _ => none
  | _ => none

/-- The next character that is no blank, for a hyphen that may be the last one of a set. A number sign
hides itself, but not what follows it. -/
def peekPast (extended inComment : Bool) : List Char → Option Char
  | [] => none
  | c :: cs =>
    if !extended then some c
    else if Text.isBlank c then peekPast extended inComment cs
    else if c = '#' && !inComment then peekPast extended true cs
    else some c

/-- A character or an escape inside a set. -/
def setPrimitive : Reader Expr := do
  let c ← peek
  if c = '\\' then escape
  else
    advance 1
    pure (.literal ⟨c, false⟩)

/-- An item of a set: a range, or whatever a single primitive stands for. -/
def setItem : Reader SetItem := do
  let first ← setPrimitive
  skipSpace
  let c ← peek
  let s ← get
  let next? := peekPast s.extended false s.rest.tail
  if c ≠ '-' || next? = some ']' || next? = some '-' then
    match first with
    | .literal l => pure (.range l l)
    | .shorthand negated which => pure (.shorthand negated which)
    | .property negated p => pure (.property negated p)
    | _ => failure
  else
    advanceSpaced
    match first, ← setPrimitive with
    | .literal a, .literal b => if a.char ≤ b.char then pure (.range a b) else failure
    | _, _ => failure

/-- Hyphens at the start of a set stand for themselves. -/
def leadingHyphens : Nat → Reader (List SetItem)
  | 0 => pure []
  | n + 1 => do
    if (← peek) = '-' then
      advanceSpaced
      return .range ⟨'-', false⟩ ⟨'-', false⟩ :: (← leadingHyphens n)
    else pure []

/-- The start of a set: whether it is negated, and the hyphens or the closing bracket that stand for
themselves there. -/
def setStart : Reader (Bool × List SetItem) := do
  advanceSpaced
  let negated := (← peek) = '^'
  if negated then advanceSpaced
  let n := (← get).rest.length
  let hyphens ← leadingHyphens n
  if hyphens.isEmpty && (← peek) = ']' then
    advanceSpaced
    pure (negated, [.range ⟨']', false⟩ ⟨']', false⟩])
  else pure (negated, hyphens)

/-- The operation at the front of a text. -/
def setOperation? : List Char → Option SetOperation
  | '&' :: '&' :: _ => some .intersection
  | '-' :: '-' :: _ => some .difference
  | '~' :: '~' :: _ => some .symmetricDifference
  | _ => none

/-- The operand before an operation joined with the one after it. -/
def joinOperands (pending : Option (SetOperation × SetExpr)) (items : List SetItem) : SetExpr :=
  match pending with
  | none => .union items
  | some (operation, left) => .binary operation left (.union items)

mutual

/-- A set, from its opening bracket on. -/
def bracketed : Nat → Reader (Bool × SetExpr)
  | 0 => failure
  | n + 1 => do
    let (negated, items) ← setStart
    return (negated, ← setBody n none items)

/-- The items of a set up to its closing bracket. Operations are joined from left to right. -/
def setBody : Nat → Option (SetOperation × SetExpr) → List SetItem → Reader SetExpr
  | 0, _, _ => failure
  | n + 1, pending, items => do
    skipSpace
    let c ← peek
    let s ← get
    if c = ']' then
      advance 1
      pure (joinOperands pending items)
    else if c = '[' then
      match namedClass? s.rest with
      | some (item, rest) =>
        set { s with rest := rest }
        setBody n pending (items ++ [item])
      | none =>
        let (negated, inner) ← bracketed n
        setBody n pending (items ++ [.nested negated inner])
    else match setOperation? s.rest with
      | some operation =>
        advance 2
        setBody n (some (operation, joinOperands pending items)) []
      | none =>
        let item ← setItem
        setBody n pending (items ++ [item])

end

end Sift.Pattern.Reader
