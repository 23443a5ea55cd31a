import Sift.Pattern.Expr
import Sift.Text.Blank

/-! # Readers of patterns

A reader of patterns carries the rest of the text, whether blanks and comments are skipped, and the names
of the groups so far. Whatever is not a pattern is refused without a reason.
-/
namespace Sift.Pattern

structure ReaderState where
  rest : List Char
  /-- Whether blanks and comments do not count. -/
  extended : Bool
  names : List (List Char)

/-- A step that takes something from the front of a pattern, or refuses it. -/
abbrev Reader := StateT ReaderState Option

namespace Reader

def peek? : Reader (Option Char) := do return (← get).rest.head?

/-- The next character, which has to be there. -/
def peek : Reader Char := do
  match ← peek? with
  | some c => pure c
  | none => failure

def advance (n : Nat) : Reader Unit := modify fun s => { s with rest := s.rest.drop n }

/-- A text without the blanks and comments in front. -/
def dropSpace (inComment : Bool) : List Char → List Char
  | [] => []
  | c :: cs =>
    if inComment then dropSpace (c != '\n') cs
    else if Text.isBlank c then dropSpace false cs
    else if c = '#' then dropSpace true cs
    else c :: cs

/-- Takes blanks and comments where they do not count. -/
def skipSpace : Reader Unit :=
  modify fun s => if s.extended then { s with rest := dropSpace false s.rest } else s

/-- Takes a character and the blanks after it. -/
def advanceSpaced : Reader Unit := do
  advance 1
  skipSpace

/-- Takes a word, if it is next. -/
def takeWord (word : List Char) : Reader Bool := do
  if word.isPrefixOf (← get).rest then
    advance word.length
    pure true
  else pure false

/-- The characters of a class at the front, with blanks between them where these do not count. -/
def spanSpaced (p : Char → Bool) : Nat → Reader (List Char)
  | 0 => pure []
  | n + 1 => do
    match ← peek? with
    | none => pure []
    | some c =>
      if p c then
        advanceSpaced
        return c :: (← spanSpaced p n)
      else pure []

def span (p : Char → Bool) : Reader (List Char) := do
  let n := (← get).rest.length
  spanSpaced p n

end Reader
end Sift.Pattern
