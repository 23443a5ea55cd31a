/-! # Places in a document

A reader of documents walks through the text with its place: the rest of the text, the column and the
line. Blocks are told apart by the columns of their entries.
-/
namespace Sift.Yaml

structure Place where
  rest : List Char
  column : Nat
  line : Nat

def isBlank (c : Char) : Bool := c == ' ' || c == '\t'

/-- Whether a text begins with a blank, a line break or its end. -/
def startsBlank : List Char → Bool
  | [] => true
  | c :: _ => isBlank c || c == '\n'

namespace Place

def atEnd (p : Place) : Bool := p.rest.isEmpty

def next (p : Place) : Place :=
  match p.rest with
  | [] => p
  | '\n' :: rest => ⟨rest, 0, p.line + 1⟩
  | _ :: rest => ⟨rest, p.column + 1, p.line⟩

/-- Whether a line with a document marker begins here. -/
def atMarker (p : Place) : Bool :=
  p.column == 0 && match p.rest with
    | '-' :: '-' :: '-' :: rest => startsBlank rest
    | '.' :: '.' :: '.' :: rest => startsBlank rest
    | _ => false

/-- Whether nothing of the document is left. -/
def atClose (p : Place) : Bool := p.atEnd || p.atMarker

/-- Whether an entry of a block sequence begins here. -/
def atDash (p : Place) : Bool :=
  match p.rest with
  | '-' :: rest => startsBlank rest
  | _ => false

/-- Whether a colon follows that ends a key of a block mapping. -/
def atColon (p : Place) : Bool :=
  match p.rest with
  | ':' :: rest => startsBlank rest
  | _ => false

/-- Skips blanks, line breaks and comments. At the start of a block's line tabs are no blanks. -/
def skipFrom (flow : Bool) : (tabs comment : Bool) → List Char → Nat → Nat → Place
  | _, _, [], column, line => ⟨[], column, line⟩
  | tabs, comment, c :: cs, column, line =>
    if c = '\n' then skipFrom flow flow false cs 0 (line + 1)
    else if comment || c = ' ' || (c = '\t' && tabs) then skipFrom flow tabs comment cs (column + 1) line
    else if c = '#' then skipFrom flow tabs true cs (column + 1) line
    else ⟨c :: cs, column, line⟩

def skip (p : Place) (flow tabs : Bool) : Place := skipFrom flow tabs false p.rest p.column p.line

end Place

end Sift.Yaml
