import Sift.Yaml.Plain
import Sift.Text.Pieces

/-! # Writing YAML

A value is written in block form, line by line. An entry of a sequence hangs on its dash; a sequence under
a key is not indented, a mapping is, by two spaces. A text is written without quotes if it then reads back
as the same text, in single quotes if it would be read as something else, in double quotes if it has
characters that only escapes can write, and as a literal block if it has line breaks.
-/
namespace Sift.Yaml

/-- Doubles are positional while the first digit's exponent is between -5 and 15. -/
def floatLayout : Decimal.Layout where
  positional lead := -5 ≤ lead && lead ≤ 15
  keepsPoint := true
  plusSign := false
  tie := .toEven

def numberText : Number → List Char
  | .signed n => integerText n.toInt
  | .unsigned n => integerText n.toNat
  | .float x =>
    if x.isFinite then floatLayout.write x
    else if x.isNaN then ['.', 'n', 'a', 'n']
    else if x.isNegative then ['-', '.', 'i', 'n', 'f']
    else ['.', 'i', 'n', 'f']

/-- Whether a character can be written as it is. -/
def isWritable (c : Char) : Bool :=
  let n := c.toNat
  n == 10 || (0x20 ≤ n && n ≤ 0x7E) ||
    (0xA0 ≤ n && n != 0xFEFF && n != 0xFFFE && n != 0xFFFF)

/-- Characters that end a row of a text. All but the line feed stay inside a line here. -/
def isBreak (c : Char) : Bool := ['\n', '\r', '\x85', '\u2028', '\u2029'].contains c

/-- Whether a pair of neighbours has a property. -/
def hasNeighbours (p : Char → Char → Bool) : List Char → Bool
  | a :: b :: cs => p a b || hasNeighbours p (b :: cs)
  | _ => false

/-- A space, a tab or a break. -/
def isGap (c : Char) : Bool := c == ' ' || c == '\t' || isBreak c

/-- Whether a text begins with a gap or is at its end. -/
def gapFollows : List Char → Bool
  | [] => true
  | c :: _ => isGap c

/-- Whether a text begins as no plain scalar may. -/
def hasBadStart : List Char → Bool
  | '-' :: '-' :: '-' :: _ => true
  | '.' :: '.' :: '.' :: _ => true
  | c :: cs =>
    ['#', ',', '[', ']', '\x7b', '\x7d', '&', '*', '!', '|', '>', '\'', '"', '%', '@', '\x60'].contains c ||
      (['?', ':', '-'].contains c && gapFollows cs)
  | [] => false

/-- Whether something after the first character would end a plain scalar: a colon before a blank, or a
number sign after one. -/
def hasBadMiddle : List Char → Bool
  | a :: b :: cs =>
    (b == ':' && gapFollows cs) || (b == '#' && isGap a) || hasBadMiddle (b :: cs)
  | _ => false

/-- Whether only escapes can write a text. -/
def needsEscapes (cs : List Char) : Bool :=
  !cs.all isWritable || hasNeighbours (fun a b => a == ' ' && isBreak b) cs

/-- Whether single quotes can hold a text, which has no line feed. -/
def singleAllowed (cs : List Char) : Bool :=
  !(needsEscapes cs || hasNeighbours (fun a b => isBreak a && b == ' ') cs)

/-- Whether a text can stand without quotes. -/
def plainAllowed (cs : List Char) : Bool :=
  !(needsEscapes cs || cs.any isBreak || cs.head? == some ' ' || cs.getLast? == some ' ' ||
    hasBadStart cs || hasBadMiddle cs)

/-- Whether a text without quotes would be read as something else than a text. -/
def looksTyped (cs : List Char) : Bool :=
  match plain? cs with
  | some (.string _) => isZeroPadded cs
  | _ => true

def hexDigit (n : Nat) : Char := (Nat.digitChar (n % 16)).toUpper

/-- The last `width` hexadecimal digits of a number. -/
def hexDigits : (width n : Nat) → List Char
  | 0, _ => []
  | width + 1, n => hexDigits width (n / 16) ++ [hexDigit n]

def escape (c : Char) : List Char :=
  match c with
  | '\x00' => ['\\', '0']
  | '\x07' => ['\\', 'a']
  | '\x08' => ['\\', 'b']
  | '\t' => ['\\', 't']
  | '\n' => ['\\', 'n']
  | '\x0b' => ['\\', 'v']
  | '\x0c' => ['\\', 'f']
  | '\r' => ['\\', 'r']
  | '\x1b' => ['\\', 'e']
  | '"' => ['\\', '"']
  | '\\' => ['\\', '\\']
  | '\x85' => ['\\', 'N']
  | '\u2028' => ['\\', 'L']
  | '\u2029' => ['\\', 'P']
  | c =>
    if isWritable c then [c]
    else if c.toNat ≤ 0xFF then '\\' :: 'x' :: hexDigits 2 c.toNat
    else if c.toNat ≤ 0xFFFF then '\\' :: 'u' :: hexDigits 4 c.toNat
    else '\\' :: 'U' :: hexDigits 8 c.toNat

def doubleQuoted (cs : List Char) : List Char := '"' :: cs.flatMap escape ++ ['"']

def singleQuoted (cs : List Char) : List Char :=
  '\'' :: cs.flatMap (fun c => if c = '\'' then ['\'', '\''] else [c]) ++ ['\'']

/-- The mark of a literal block: a hint if its first line is blank or begins with a space, and a sign for
the line breaks at its end. -/
def literalMark (cs : List Char) : List Char :=
  let hint := if cs.head?.any fun c => c == ' ' || isBreak c then ['2'] else []
  let chomp := match cs.reverse.map isBreak with
    | true :: true :: _ => ['+']
    | [true] => ['+']
    | true :: _ => []
    | _ => ['-']
  '|' :: hint ++ chomp

def literalLines (cs : List Char) : List (List Char) :=
  let lines := Text.pieces '\n' cs
  if lines.getLast? == some [] then lines.dropLast else lines

/-- The lines of a text; all but the first one are yet to be indented. -/
def textLines (s : String) : List (List Char) :=
  let cs := s.toList
  if cs.contains '\n' then
    if needsEscapes cs || cs.getLast? == some ' ' then [doubleQuoted cs]
    else literalMark cs :: literalLines cs
  else if plainAllowed cs && !looksTyped cs then [cs]
  else if singleAllowed cs then [singleQuoted cs]
  else [doubleQuoted cs]

/-- The longest text, in bytes, that is a key without a mark. -/
def keyLimit : Nat := 128

/-- Whether a text is a key without a mark. -/
def isSimpleKey (s : String) : Bool := !s.toList.any isBreak && s.utf8ByteSize ≤ keyLimit

/-- A line with two more spaces in front of each row but the first; empty rows stay empty. -/
def indentRows : List Char → List Char
  | a :: b :: cs =>
    if isBreak a && !isBreak b then a :: ' ' :: ' ' :: indentRows (b :: cs) else a :: indentRows (b :: cs)
  | cs => cs

/-- A line with two more spaces in front of each row. -/
def indent (line : List Char) : List Char :=
  if line.head?.all isBreak then indentRows line else ' ' :: ' ' :: indentRows line

/-- Lines that hang on a mark of two characters. -/
def hang (a b : Char) : List (List Char) → List (List Char)
  | [] => []
  | line :: lines => (a :: b :: indentRows line) :: lines.map indent

/-- The lines of a key and its value. Under a key without a mark, a scalar and an empty collection stand
on the same line. -/
def entryLines (key : String) (value : Json) (lines : List (List Char)) : List (List Char) :=
  if isSimpleKey key then
    let label := (textLines key).flatten ++ [':']
    match value, lines with
    | .array (_ :: _), lines => label :: lines
    | .object (_ :: _), lines => label :: lines.map indent
    | _, [] => [label]
    | _, line :: lines => (label ++ ' ' :: indentRows line) :: lines.map indent
  else hang '?' ' ' (textLines key) ++ hang ':' ' ' lines

mutual

def lines : Json → List (List Char)
  | .null => [['n', 'u', 'l', 'l']]
  | .bool true => [['t', 'r', 'u', 'e']]
  | .bool false => [['f', 'a', 'l', 's', 'e']]
  | .number n => [numberText n]
  | .string s => textLines s
  | .array [] => [['[', ']']]
  | .array (x :: xs) => hang '-' ' ' (lines x) ++ itemLines xs
  | .object [] => [['\x7b', '\x7d']]
  | .object ((key, x) :: ms) => entryLines key x (lines x) ++ memberLines ms

def itemLines : List Json → List (List Char)
  | [] => []
  | x :: xs => hang '-' ' ' (lines x) ++ itemLines xs

def memberLines : List (String × Json) → List (List Char)
  | [] => []
  | (key, x) :: ms => entryLines key x (lines x) ++ memberLines ms

end

/-- The lines of a document. The rows of a text are indented there too. -/
def documentLines (v : Json) : List (List Char) :=
  match v, lines v with
  | .string _, line :: rest => indentRows line :: rest.map indent
  | _, ls => ls

def write (v : Json) : String := String.ofList ((documentLines v).flatMap (· ++ ['\n']))

end Sift.Yaml
