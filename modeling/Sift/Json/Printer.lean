import Sift.Json.Basic

/-! # Writing JSON

Two forms: a compact one without any space, and a pretty one with an item per line and two spaces per
level. Strings are escaped only where they have to be.
-/
namespace Sift.Json

/-- Doubles are positional while the first digit's exponent is between -5 and 15, and always look like
doubles. -/
def floatLayout : Decimal.Layout where
  positional lead := -5 ≤ lead && lead ≤ 15
  keepsPoint := true
  plusSign := true
  tie := .toEven

/-- The text of a number; what is not finite has none and is written as null. -/
def numberText : Number → List Char
  | .signed n => integerText n.toInt
  | .unsigned n => integerText n.toNat
  | .float x => if x.isFinite then floatLayout.write x else ['n', 'u', 'l', 'l']

def hexDigit (n : Nat) : Char := Nat.digitChar (n % 16)

def escape (c : Char) : List Char :=
  match c with
  | '"' => ['\\', '"']
  | '\\' => ['\\', '\\']
  | '\x08' => ['\\', 'b']
  | '\x0c' => ['\\', 'f']
  | '\n' => ['\\', 'n']
  | '\r' => ['\\', 'r']
  | '\t' => ['\\', 't']
  | c =>
    if c.toNat < 0x20 then ['\\', 'u', '0', '0', hexDigit (c.toNat / 16), hexDigit c.toNat]
    else [c]

def stringText (s : String) : List Char := '"' :: s.toList.flatMap escape ++ ['"']

mutual

/-- The text of a value without spaces. -/
def compact : Json → List Char
  | .null => ['n', 'u', 'l', 'l']
  | .bool true => ['t', 'r', 'u', 'e']
  | .bool false => ['f', 'a', 'l', 's', 'e']
  | .number n => numberText n
  | .string s => stringText s
  | .array xs => '[' :: compactItems xs ++ [']']
  | .object ms => '\x7b' :: compactMembers ms ++ ['\x7d']

def compactItems : List Json → List Char
  | [] => []
  | [x] => compact x
  | x :: xs => compact x ++ ',' :: compactItems xs

def compactMembers : List (String × Json) → List Char
  | [] => []
  | [(k, v)] => stringText k ++ ':' :: compact v
  | (k, v) :: ms => stringText k ++ ':' :: compact v ++ ',' :: compactMembers ms

end

/-- The end of a line and the indentation of the next one. -/
def newline (level : Nat) : List Char := '\n' :: List.replicate (2 * level) ' '

mutual

/-- The text of a value with an item per line, inside `level` brackets. -/
def pretty (level : Nat) : Json → List Char
  | .array [] => ['[', ']']
  | .array (x :: xs) => '[' :: prettyItems (level + 1) (x :: xs) ++ newline level ++ [']']
  | .object [] => ['\x7b', '\x7d']
  | .object (m :: ms) => '\x7b' :: prettyMembers (level + 1) (m :: ms) ++ newline level ++ ['\x7d']
  | v => compact v

def prettyItems (level : Nat) : List Json → List Char
  | [] => []
  | [x] => newline level ++ pretty level x
  | x :: xs => newline level ++ pretty level x ++ ',' :: prettyItems level xs

def prettyMembers (level : Nat) : List (String × Json) → List Char
  | [] => []
  | [(k, v)] => newline level ++ stringText k ++ ':' :: ' ' :: pretty level v
  | (k, v) :: ms =>
    newline level ++ stringText k ++ ':' :: ' ' :: pretty level v ++ ',' :: prettyMembers level ms

end

def toCompact (v : Json) : String := String.ofList (compact v)

def toPretty (v : Json) : String := String.ofList (pretty 0 v)

end Sift.Json
