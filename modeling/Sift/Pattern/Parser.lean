import Sift.Pattern.Bracket
import Sift.Unicode.Property

/-! # Reading patterns

A pattern is read as branches, a branch as parts, and a part may be repeated. Recursion is bounded by the
length of the text: every step takes at least one character.
-/
namespace Sift.Pattern
open Unicode
namespace Reader

/-- A decimal count, with blanks around it. -/
def count : Reader Nat := do
  modify fun s => { s with rest := s.rest.dropWhile Text.isBlank }
  let digits ← span Char.isDigit
  let _ ← span Text.isBlank
  match natOfDigits? 10 digits with
  | some n => if n < Nat.pow 2 32 then pure n else failure
  | none => failure

/-- Takes a question mark, which makes a repetition lazy. -/
def lazyMark : Reader Unit := do
  if (← peek?) = some '?' then advance 1

/-- The least and the greatest number of times, from an opening brace on. -/
def counts : Reader (Nat × Option Nat) := do
  advanceSpaced
  let least ← count
  let most ← do
    if (← peek) = ',' then
      advanceSpaced
      if (← peek) = '\x7d' then pure none
      else
        let most ← count
        pure (some most)
    else pure (some least)
  if (← peek) ≠ '\x7d' then failure
  advanceSpaced
  lazyMark
  match most with
  | some m => if least ≤ m then pure (least, most) else failure
  | none => pure (least, most)

def flagOfLetter? : Char → Option Flag
  | 'i' => some .ignoreCase
  | 'm' => some .multiLine
  | 's' => some .dotAll
  | 'U' => some .swapGreed
  | 'u' => some .unicode
  | 'R' => some .crlf
  | 'x' => some .extended
  | _ => none

/-- Flags up to a colon or a closing parenthesis. No flag stands twice, there is at most one hyphen, and a
flag follows it. -/
def flagChange (negated : Bool) (change : FlagChange) : List Char → Option (FlagChange × List Char)
  | [] => none
  | c :: cs =>
    if c = ':' || c = ')' then
      if negated && change.off.isEmpty then none else some (change, c :: cs)
    else if c = '-' then if negated then none else flagChange true change cs
    else match flagOfLetter? c with
      | none => none
      | some flag =>
        if change.on.contains flag || change.off.contains flag then none
        else if negated then flagChange true ⟨change.on, change.off ++ [flag]⟩ cs
        else flagChange false ⟨change.on ++ [flag], change.off⟩ cs

/-- Whether a text is a group's name. -/
def isGroupName : List Char → Bool
  | [] => false
  | c :: cs =>
    (c == '_' || alphabetic.contains c.toNat) &&
      cs.all fun c => ['_', '.', '[', ']'].contains c || alphanumeric.contains c.toNat

/-- A group's name up to its closing angle bracket, which no other group has. -/
def groupName : Reader Unit := do
  let s ← get
  let name := s.rest.takeWhile (· ≠ '>')
  match s.rest.dropWhile (· ≠ '>') with
  | _ :: rest =>
    if isGroupName name && !s.names.contains name then
      set { s with rest := rest, names := name :: s.names }
    else failure
  | [] => failure

inductive Opening
  | capture
  | group (change : FlagChange)
  | directive (change : FlagChange)

/-- The beginning of a group, from its parenthesis on. Looking around is refused. -/
def opening : Reader Opening := do
  advanceSpaced
  let rest := (← get).rest
  if [['?', '='], ['?', '!'], ['?', '<', '='], ['?', '<', '!']].any (·.isPrefixOf rest) then failure
  if (← takeWord ['?', 'P', '<']) || (← takeWord ['?', '<']) then
    groupName
    pure .capture
  else if ← takeWord ['?'] then
    let s ← get
    match flagChange false ⟨[], []⟩ s.rest with
    | some (change, ':' :: rest) =>
      set { s with rest := rest }
      pure (.group change)
    | some (change, _ :: rest) =>
      if change.on.isEmpty && change.off.isEmpty then failure
      set { s with rest := rest }
      pure (.directive change)
    | _ => failure
  else pure .capture

/-- Sets whether blanks count as a change of flags says. -/
def applyExtended (change : FlagChange) : Reader Unit :=
  modify fun s => { s with extended := (change.state? .extended).getD s.extended }

def concatOf : List Expr → Expr
  | [e] => e
  | es => .concat es

/-- Repeats the last part, which must not be a directive. Parts are kept in reverse. -/
def repeatLast (parts : List Expr) (least : Nat) (most : Option Nat) : Reader (List Expr) :=
  match parts with
  | [] => failure
  | .flags _ :: _ => failure
  | e :: es => pure (.repeated e least most :: es)

mutual

/-- Branches up to a closing parenthesis or the end. -/
def branches : Nat → Reader (List Expr)
  | 0 => failure
  | n + 1 => do
    let branch ← parts n []
    if (← peek?) = some '|' then
      advance 1
      return concatOf branch :: (← branches n)
    else pure [concatOf branch]

/-- The parts of a branch, after those that are already read. -/
def parts : Nat → List Expr → Reader (List Expr)
  | 0, _ => failure
  | n + 1, before => do
    skipSpace
    match ← peek? with
    | none => pure before.reverse
    | some c =>
      if c = ')' || c = '|' then pure before.reverse
      else if c = '(' then
        let outer := (← get).extended
        match ← opening with
        | .directive change =>
          applyExtended change
          parts n (.flags change :: before)
        | .capture =>
          let body ← closedBranches n outer
          parts n (.capture body :: before)
        | .group change =>
          applyExtended change
          let body ← closedBranches n outer
          parts n (.group change body :: before)
      else if c = '[' then
        let (negated, s) ← bracketed n
        parts n (.set negated s :: before)
      else if c = '?' || c = '*' || c = '+' then
        let after ← repeatLast before (if c = '+' then 1 else 0) (if c = '?' then some 1 else none)
        advance 1
        lazyMark
        parts n after
      else if c = '\x7b' then
        let (least, most) ← counts
        let after ← repeatLast before least most
        parts n after
      else if c = '\\' then
        let e ← escape
        parts n (e :: before)
      else
        advance 1
        let e : Expr :=
          if c = '.' then .dot
          else if c = '^' then .anchor .lineStart
          else if c = '$' then .anchor .lineEnd
          else .literal ⟨c, false⟩
        parts n (e :: before)

/-- The branches of a group and its closing parenthesis, after which blanks count as before the group. -/
def closedBranches : Nat → Bool → Reader Expr
  | 0, _ => failure
  | n + 1, outer => do
    let body ← branches n
    if (← peek?) ≠ some ')' then failure
    advance 1
    modify fun s => { s with extended := outer }
    match body with
    | [e] => pure e
    | es => pure (.alternation es)

end

end Reader

/-- How deep the parts of a pattern may be nested. -/
def maxNesting : Nat := 250

/-- The expression that a pattern's text denotes. -/
def Expr.parse? (text : String) : Option Expr := do
  let cs := text.toList
  let (body, s) ← (Reader.branches (3 * cs.length + 3)).run ⟨cs, false, []⟩
  if !s.rest.isEmpty then failure
  let e : Expr := match body with
    | [e] => e
    | es => .alternation es
  if e.depth ≤ maxNesting then pure e else failure

end Sift.Pattern
