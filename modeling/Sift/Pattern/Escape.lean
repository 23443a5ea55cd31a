import Sift.Pattern.Reader

/-! # Escapes

What a backslash stands for together with what follows it: a character that is given by its code or would
have a meaning of its own, a class, a property or an anchor. Letters and digits without such a meaning
are refused.
-/
namespace Sift.Pattern.Reader

def scalar (code : Nat) : Reader Char :=
  if h : code.isValidChar then pure (Char.ofNatAux code h) else failure

def isHexDigit (c : Char) : Bool := (digitValue? 16 c).isSome

def hexDigits : Nat → Reader (List Char)
  | 0 => pure []
  | n + 1 => do
    let c ← peek
    if isHexDigit c then
      advanceSpaced
      return c :: (← hexDigits n)
    else failure

/-- A character given by its code, after the letter that says how many digits there are. -/
def hexLiteral : Reader Literal := do
  let mark ← peek
  advanceSpaced
  if (← peek) = '\x7b' then
    advanceSpaced
    let digits ← span isHexDigit
    if (← peek) ≠ '\x7d' then failure
    advanceSpaced
    match natOfDigits? 16 digits with
    | some code => return ⟨← scalar code, false⟩
    | none => failure
  else
    let digits ← hexDigits (if mark = 'x' then 2 else if mark = 'u' then 4 else 8)
    match natOfDigits? 16 digits with
    | some code => return ⟨← scalar code, mark = 'x'⟩
    | none => failure

/-- The text before a word and the text after it, if the word occurs. -/
def splitAtWord? (word : List Char) : List Char → Option (List Char × List Char)
  | [] => none
  | c :: cs =>
    if word.isPrefixOf (c :: cs) then some ([], (c :: cs).drop word.length)
    else (splitAtWord? word cs).map fun (before, after) => (c :: before, after)

/-- A property, after its letter; the answer says whether it is negated. -/
def property (negated : Bool) : Reader (Bool × Property) := do
  advanceSpaced
  let c ← peek
  if c = '\x7b' then
    advanceSpaced
    let text ← span (· ≠ '\x7d')
    if (← peek) ≠ '\x7d' then failure
    advance 1
    match splitAtWord? ['!', '='] text with
    | some (name, value) => pure (!negated, .valued name value)
    | none => match splitAtWord? [':'] text with
      | some (name, value) => pure (negated, .valued name value)
      | none => match splitAtWord? ['='] text with
        | some (name, value) => pure (negated, .valued name value)
        | none => pure (negated, .named text)
  else if c = '\\' then failure
  else
    advanceSpaced
    pure (negated, .named [c])

/-- Characters with a meaning of their own, which a backslash takes away. -/
def isMeta (c : Char) : Bool :=
  ['\\', '.', '+', '*', '?', '(', ')', '|', '[', ']', '\x7b', '\x7d', '^', '$', '#', '&', '-', '~'].contains c

/-- Characters that may be escaped: ASCII characters other than letters and digits. -/
def isEscapable (c : Char) : Bool :=
  isMeta c || (c.toNat < 0x80 && !c.isAlphanum && c != '<' && c != '>')

/-- The words between braces that make a boundary one-sided. -/
def boundaryOfName? (name : List Char) : Option Anchor :=
  match String.ofList name with
  | "start" => some .wordStart
  | "end" => some .wordEnd
  | "start-half" => some .wordStartHalf
  | "end-half" => some .wordEndHalf
  | _ => none

/-- What follows the letter of a word boundary: braces with a word, unless they count a repetition. -/
def boundary : Reader Anchor := do
  let start ← get
  if start.rest.head? ≠ some '\x7b' then pure .wordBoundary
  else
    let isNameChar := fun c : Char => c.isAlpha || c == '-'
    advanceSpaced
    if isNameChar (← peek) then
      let name ← span isNameChar
      if (← peek) ≠ '\x7d' then failure
      advance 1
      match boundaryOfName? name with
      | some anchor => pure anchor
      | none => failure
    else
      set start
      pure .wordBoundary

/-- What a letter after a backslash stands for, if it is a single thing. -/
def escapedLetter? : Char → Option Expr
  | 'a' => some (.literal ⟨'\x07', false⟩)
  | 'f' => some (.literal ⟨'\x0c', false⟩)
  | 't' => some (.literal ⟨'\t', false⟩)
  | 'n' => some (.literal ⟨'\n', false⟩)
  | 'r' => some (.literal ⟨'\r', false⟩)
  | 'v' => some (.literal ⟨'\x0b', false⟩)
  | 'd' => some (.shorthand false .digit)
  | 'D' => some (.shorthand true .digit)
  | 's' => some (.shorthand false .space)
  | 'S' => some (.shorthand true .space)
  | 'w' => some (.shorthand false .word)
  | 'W' => some (.shorthand true .word)
  | 'A' => some (.anchor .textStart)
  | 'z' => some (.anchor .textEnd)
  | 'B' => some (.anchor .notWordBoundary)
  | '<' => some (.anchor .wordStart)
  | '>' => some (.anchor .wordEnd)
  | _ => none

def escape : Reader Expr := do
  advance 1
  let c ← peek
  if c = 'x' || c = 'u' || c = 'U' then return .literal (← hexLiteral)
  else if c = 'p' || c = 'P' then
    let (negated, p) ← property (c = 'P')
    return .property negated p
  else
    advance 1
    if c = 'b' then return .anchor (← boundary)
    else if isEscapable c then return .literal ⟨c, false⟩
    else match escapedLetter? c with
      | some e => pure e
      | none => failure

end Sift.Pattern.Reader
