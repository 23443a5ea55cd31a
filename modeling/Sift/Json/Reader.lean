import Sift.Json.Basic

/-! # Reading JSON

A reader takes a value from the front of a text and hands on what follows it. Objects are read as they
are written, with repeated keys and in their order; `Json.parse?` makes the value canonical. Arrays and
objects may be nested up to a given depth. Numbers keep their kind: a numeral without point and exponent
is an integer if a word holds it, and everything else is the nearest double, which must be finite.
-/
namespace Sift.Json

def isSpace (c : Char) : Bool := c == ' ' || c == '\t' || c == '\n' || c == '\r'

def skipSpace (cs : List Char) : List Char := cs.dropWhile isSpace

/-- The character that a one-letter escape stands for. -/
def simpleEscape? : Char → Option Char
  | '"' => some '"'
  | '\\' => some '\\'
  | '/' => some '/'
  | 'b' => some '\x08'
  | 'f' => some '\x0c'
  | 'n' => some '\n'
  | 'r' => some '\r'
  | 't' => some '\t'
  | _ => none

/-- The code unit written with four hexadecimal digits. -/
def codeUnit? (a b c d : Char) : Option Nat := natOfDigits? 16 [a, b, c, d]

/-- The code point of a pair of surrogates. -/
def ofSurrogates? (high low : Nat) : Option Char :=
  if 0xD800 ≤ high && high < 0xDC00 && 0xDC00 ≤ low && low < 0xE000 then
    some (Char.ofNat (0x10000 + (high - 0xD800) * 0x400 + (low - 0xDC00)))
  else none

/-- The text of a string up to its closing quote, and what follows the quote. A surrogate stands only in
a pair, and control characters are escaped. -/
def stringBody : List Char → Option (List Char × List Char)
  | [] => none
  | '"' :: rest => some ([], rest)
  | '\\' :: 'u' :: a :: b :: c :: d :: rest =>
    match codeUnit? a b c d with
    | none => none
    | some unit =>
      if 0xD800 ≤ unit && unit < 0xE000 then
        match rest with
        | '\\' :: 'u' :: e :: f :: g :: h :: rest =>
          match (codeUnit? e f g h).bind (ofSurrogates? unit) with
          | none => none
          | some char => (stringBody rest).map fun (text, rest) => (char :: text, rest)
        | _ => none
      else (stringBody rest).map fun (text, rest) => (Char.ofNat unit :: text, rest)
  | '\\' :: c :: rest =>
    match simpleEscape? c with
    | none => none
    | some char => (stringBody rest).map fun (text, rest) => (char :: text, rest)
  | c :: rest =>
    if c.toNat < 0x20 then none
    else (stringBody rest).map fun (text, rest) => (c :: text, rest)

/-- The number of an integer numeral; minus zero is a double. -/
def ofInteger? (negative : Bool) (n : Nat) : Option Number :=
  if negative && n = 0 then none
  else Number.ofInt? (if negative then -(n : Int) else n)

/-- A finite double, or nothing if the numeral is too large. -/
def finite? (x : Binary64) : Option Number := if x.isFinite then some (.float x) else none

/-- The digits before the point: no zero stands in front of another digit. -/
def wholeDigits? (cs : List Char) : Option (List Char × List Char) :=
  match cs with
  | '0' :: rest => some (['0'], rest)
  | cs => match Numeral.takeDigits cs with
    | ([], _) => none
    | (ds, rest) => some (ds, rest)

/-- The point and its digits, of which there is at least one. -/
def fractionDigits? : List Char → Option (List Char × List Char)
  | '.' :: rest => match Numeral.takeDigits rest with
    | ([], _) => none
    | (ds, rest) => some (ds, rest)
  | cs => some ([], cs)

/-- Whether a point or an exponent follows the whole part of a number. -/
def isFloatTail : List Char → Bool
  | c :: _ => c == '.' || c == 'e' || c == 'E'
  | [] => false

/-- A number at the front of a text. -/
def number? (cs : List Char) : Option (Number × List Char) := do
  let (negative, cs) := match cs with
    | '-' :: rest => (true, rest)
    | cs => (false, cs)
  let (whole, afterWhole) ← wholeDigits? cs
  let (fraction, afterFraction) ← fractionDigits? afterWhole
  let (power, rest) ← Numeral.takePower? afterFraction
  let integer? := if isFloatTail afterWhole then none else ofInteger? negative (Numeral.ofDigits whole)
  let n ← integer?.or (finite? (Numeral.ofParts negative whole fraction power).toBinary64)
  some (n, rest)

/-- The rest of a text after a given word at its front. -/
def after? (word cs : List Char) : Option (List Char) :=
  if word.isPrefixOf cs then some (cs.drop word.length) else none

/-- One item, then more of them after commas, up to the closing bracket. -/
def items? {α : Type} (close : Char) (item : List Char → Option (α × List Char)) :
    Nat → List Char → Option (List α × List Char)
  | 0, _ => none
  | n + 1, cs => do
    let (x, rest) ← item cs
    match skipSpace rest with
    | ',' :: rest => (items? close item n rest).map fun (xs, rest) => (x :: xs, rest)
    | c :: rest => if c = close then some ([x], rest) else none
    | [] => none

/-- The items between brackets, the opening one of which is already taken. -/
def sequence? {α : Type} (close : Char) (item : List Char → Option (α × List Char))
    (cs : List Char) : Option (List α × List Char) :=
  match skipSpace cs with
  | c :: rest => if c = close then some ([], rest) else items? close item (cs.length + 1) (c :: rest)
  | [] => none

/-- A member of an object: a string, a colon and a value. -/
def keyed? (value : List Char → Option (Json × List Char)) (cs : List Char) :
    Option ((String × Json) × List Char) :=
  match skipSpace cs with
  | '"' :: rest => do
    let (key, rest) ← stringBody rest
    match skipSpace rest with
    | ':' :: rest =>
      let (v, rest) ← value rest
      some ((String.ofList key, v), rest)
    | _ => none
  | _ => none

/-- A value at the front of a text, with at most `depth` brackets around each other. -/
def value? : Nat → List Char → Option (Json × List Char)
  | depth, cs => match skipSpace cs with
    | '"' :: rest => (stringBody rest).map fun (s, rest) => (.string (String.ofList s), rest)
    | '[' :: rest => match depth with
      | 0 => none
      | depth + 1 => (sequence? ']' (value? depth) rest).map fun (xs, rest) => (.array xs, rest)
    | '{' :: rest => match depth with
      | 0 => none
      | depth + 1 =>
        (sequence? '}' (keyed? (value? depth)) rest).map fun (ms, rest) => (.object ms, rest)
    | 'n' :: rest => (after? ['u', 'l', 'l'] rest).map fun rest => (.null, rest)
    | 't' :: rest => (after? ['r', 'u', 'e'] rest).map fun rest => (.bool true, rest)
    | 'f' :: rest => (after? ['a', 'l', 's', 'e'] rest).map fun rest => (.bool false, rest)
    | cs => (number? cs).map fun (n, rest) => (.number n, rest)

/-- How deep arrays and objects may be nested. -/
def maxDepth : Nat := 127

/-- The value that a whole text denotes, with the members of objects as they are written. -/
def read? (text : String) : Option Json :=
  match value? maxDepth text.toList with
  | some (v, rest) => if rest.all isSpace then some v else none
  | none => none

/-- The canonical value that a whole text denotes. -/
def parse? (text : String) : Option Json := (read? text).map canonical

end Sift.Json
