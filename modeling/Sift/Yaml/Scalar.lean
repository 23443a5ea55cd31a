import Sift.Yaml.Place
import Sift.Decimal.Numeral

/-! # Written scalars

The text of a scalar without quotes, in single quotes and in double quotes. A scalar may be written on
several lines: a single line break stands for a space, and of several ones the first does not count.
-/
namespace Sift.Yaml

/-- The text that line breaks between two words stand for. -/
def folded (breaks : Nat) : List Char := if breaks = 1 then [' '] else List.replicate (breaks - 1) '\n'

/-- Takes blanks and line breaks: the blanks before the first break, and the number of breaks. A tab in
the first `least` columns of a later line is refused. -/
def takeGap (least : Option Nat) : Nat → Place → List Char → Nat → Option (List Char × Nat × Place)
  | 0, _, _, _ => none
  | n + 1, p, blanks, breaks =>
    match p.rest with
    | '\n' :: _ => takeGap least n p.next blanks (breaks + 1)
    | c :: _ =>
      if !isBlank c then some (blanks, breaks, p)
      else if breaks = 0 then takeGap least n p.next (blanks ++ [c]) 0
      else if c = '\t' && least.any (p.column < ·) then none
      else takeGap least n p.next blanks breaks
    | [] => some (blanks, breaks, p)

/-- The text between two words of a scalar. -/
def gapText (blanks : List Char) (breaks : Nat) : List Char := if breaks = 0 then blanks else folded breaks

/-- Characters with a meaning of their own inside brackets and braces. -/
def isFlowIndicator (c : Char) : Bool := [',', '[', ']', '\x7b', '\x7d'].contains c

/-- Whether a plain scalar ends before a text. -/
def endsPlain (flow : Bool) : List Char → Bool
  | [] => true
  | ':' :: rest => startsBlank rest
  | c :: _ => isBlank c || c == '\n' || (flow && isFlowIndicator c)

/-- A colon inside brackets that neither ends a key nor belongs to a word. -/
def isStrayColon (flow : Bool) : List Char → Bool
  | ':' :: c :: _ => flow && (isFlowIndicator c || c == '?')
  | _ => false

/-- Takes one word of a plain scalar. -/
def takeWord (flow : Bool) : Nat → Place → List Char → Option (List Char × Place)
  | 0, _, _ => none
  | n + 1, p, word =>
    if isStrayColon flow p.rest then none
    else if endsPlain flow p.rest then some (word, p)
    else match p.rest with
      | c :: _ => takeWord flow n p.next (word ++ [c])
      | [] => some (word, p)

/-- The words of a plain scalar. In a block, continuation lines are indented by `least` columns. The blanks
and line breaks after the last word are taken too. -/
def takePlain (flow : Bool) (least : Nat) : Nat → Place → List Char → Option (List Char × Place)
  | 0, _, _ => none
  | n + 1, p, text => do
    let (word, p) ← takeWord flow (p.rest.length + 1) p []
    let text := text ++ word
    let (blanks, breaks, q) ← takeGap (some least) (p.rest.length + 1) p [] 0
    let stops := word.isEmpty || (blanks.isEmpty && breaks = 0) || q.atEnd || q.rest.head? == some '#' ||
      (breaks ≠ 0 && (q.atMarker || (!flow && decide (q.column < least)))) ||
      (!isStrayColon flow q.rest && endsPlain flow q.rest)
    if stops then some (text, q) else takePlain flow least n q (text ++ gapText blanks breaks)

/-- Whether a plain scalar can begin with a text. -/
def startsPlain (flow : Bool) : List Char → Bool
  | [] => false
  | c :: rest =>
    if c = '-' then !startsBlank rest
    else if c = '?' || c = ':' then !flow && !startsBlank rest
    else !(isBlank c || c == '\n' || isFlowIndicator c ||
      ['#', '&', '*', '!', '|', '>', '\'', '"', '%', '@', '\x60'].contains c)

/-- The text of a scalar in single quotes, after the first quote. -/
def takeSingle : Nat → Place → List Char → Option (List Char × Place)
  | 0, _, _ => none
  | n + 1, p, text =>
    if p.atMarker then none
    else match p.rest with
      | [] => none
      | '\'' :: '\'' :: _ => takeSingle n p.next.next (text ++ ['\''])
      | '\'' :: _ => some (text, p.next)
      | c :: _ =>
        if isBlank c || c = '\n' then do
          let (blanks, breaks, q) ← takeGap none (p.rest.length + 1) p [] 0
          takeSingle n q (text ++ gapText blanks breaks)
        else takeSingle n p.next (text ++ [c])

/-- The character of an escape that is one letter. -/
def escapedChar? : Char → Option Char
  | '0' => some '\x00'
  | 'a' => some '\x07'
  | 'b' => some '\x08'
  | 't' => some '\t'
  | '\t' => some '\t'
  | 'n' => some '\n'
  | 'v' => some '\x0b'
  | 'f' => some '\x0c'
  | 'r' => some '\r'
  | 'e' => some '\x1b'
  | ' ' => some ' '
  | '"' => some '"'
  | '/' => some '/'
  | '\\' => some '\\'
  | 'N' => some '\x85'
  | '_' => some '\xa0'
  | 'L' => some '\u2028'
  | 'P' => some '\u2029'
  | _ => none

/-- How many hexadecimal digits follow a letter. -/
def escapeLength? : Char → Option Nat
  | 'x' => some 2
  | 'u' => some 4
  | 'U' => some 8
  | _ => none

/-- The character with a code; surrogates are none. -/
def charOfCode? (code : Nat) : Option Char :=
  if h : code.isValidChar then some (Char.ofNatAux code h) else none

/-- An escape after its backslash: the character and how many characters it takes. -/
def escape? : List Char → Option (Char × Nat)
  | [] => none
  | c :: cs => match escapeLength? c with
    | some n =>
      if n ≤ cs.length then ((natOfDigits? 16 (cs.take n)).bind charOfCode?).map (·, n + 1) else none
    | none => (escapedChar? c).map (·, 1)

/-- The text of a scalar in double quotes, after the first quote. An escaped line break is no break. -/
def takeDouble : Nat → Place → List Char → Option (List Char × Place)
  | 0, _, _ => none
  | n + 1, p, text =>
    if p.atMarker then none
    else match p.rest with
      | [] => none
      | '"' :: _ => some (text, p.next)
      | '\\' :: '\n' :: _ => do
        let p := p.next.next
        let (_, breaks, q) ← takeGap none (p.rest.length + 1) p [] 0
        takeDouble n q (text ++ List.replicate breaks '\n')
      | '\\' :: cs => do
        let (c, length) ← escape? cs
        takeDouble n (Nat.repeat Place.next (length + 1) p) (text ++ [c])
      | c :: _ =>
        if isBlank c || c = '\n' then do
          let (blanks, breaks, q) ← takeGap none (p.rest.length + 1) p [] 0
          takeDouble n q (text ++ gapText blanks breaks)
        else takeDouble n p.next (text ++ [c])

end Sift.Yaml
