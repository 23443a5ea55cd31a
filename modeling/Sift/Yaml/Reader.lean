import Sift.Yaml.Node
import Sift.Yaml.Scalar

/-! # Reading YAML

Documents are read in block and in flow form. A key of a block is a single-line node in front of a colon.
Tags, anchors, block scalars and explicit keys are refused. Recursion is bounded by the length of the
text.
-/
namespace Sift.Yaml

/-- A step that takes something from the text, or refuses it. -/
abbrev Reader := StateT Place Option

def scalar (flow : Bool) (least : Nat) : Reader Node := do
  let p ← get
  let n := p.rest.length + 1
  match p.rest with
  | '\'' :: _ => match takeSingle n p.next [] with
    | some (text, q) => set q; pure (.scalar false (String.ofList text))
    | none => failure
  | '"' :: _ => match takeDouble n p.next [] with
    | some (text, q) => set q; pure (.scalar false (String.ofList text))
    | none => failure
  | rest =>
    if startsPlain flow rest then
      match takePlain flow least n p [] with
      | some (text, q) => set q; pure (.scalar true (String.ofList text))
      | none => failure
    else failure

/-- Skips to the next token inside brackets, which must not be a document marker. -/
def flowSpace : Reader Unit := do
  let p ← get
  let q := p.skip true true
  if q.atMarker then failure
  set q

/-- Takes one character, which must be there. -/
def takeChar : Reader Char := do
  let p ← get
  match p.rest with
  | c :: _ => set p.next; pure c
  | [] => failure

/-- The next character, which must be there. -/
def peekChar : Reader Char := do
  match (← get).rest with
  | c :: _ => pure c
  | [] => failure

mutual

/-- A node inside brackets or braces, or such a collection itself. -/
def flowNode : Nat → Bool → Nat → Reader Node
  | 0, _, _ => failure
  | n + 1, flow, least => do
    let c ← peekChar
    if c = '[' then
      let _ ← takeChar
      return .sequence (← flowItems n least)
    else if c = '\x7b' then
      let _ ← takeChar
      return .mapping (← flowEntries n least)
    else scalar flow least

/-- The value after a colon inside brackets; nothing is written in front of a comma or a bracket. -/
def flowValue : Nat → Nat → Reader Node
  | 0, _ => failure
  | n + 1, least => do
    let _ ← takeChar
    flowSpace
    if [',', ']', '\x7d'].contains (← peekChar) then pure .missing else flowNode n true least

/-- The items up to a closing bracket. An item may be a single pair. -/
def flowItems : Nat → Nat → Reader (List Node)
  | 0, _ => failure
  | n + 1, least => do
    flowSpace
    if (← peekChar) = ']' then
      let _ ← takeChar
      pure []
    else
      let line := (← get).line
      let node ← flowNode n true least
      flowSpace
      let item ← do
        if (← peekChar) = ':' && (← get).line == line then
          let value ← flowValue n least
          flowSpace
          pure (.mapping [(node, value)])
        else pure node
      let c ← takeChar
      if c = ',' then return item :: (← flowItems n least)
      else if c = ']' then pure [item]
      else failure

/-- The entries up to a closing brace. A key without a colon has no value. -/
def flowEntries : Nat → Nat → Reader (List (Node × Node))
  | 0, _ => failure
  | n + 1, least => do
    flowSpace
    if (← peekChar) = '\x7d' then
      let _ ← takeChar
      pure []
    else
      let line := (← get).line
      let key ← flowNode n true least
      flowSpace
      let entry ← do
        if (← peekChar) = ':' && (← get).line == line then
          let value ← flowValue n least
          flowSpace
          pure (key, value)
        else pure (key, .missing)
      let c ← takeChar
      if c = ',' then return entry :: (← flowEntries n least)
      else if c = '\x7d' then pure [entry]
      else failure

end

/-- Skips blanks on a line, up to a colon that ends a key. The answer says whether there is one. -/
def keyColon : Reader Bool := do
  let p ← get
  let q : Place := ⟨p.rest.dropWhile isBlank, p.column + (p.rest.takeWhile isBlank).length, p.line⟩
  if q.atColon then
    set q
    pure true
  else pure false

/-- The key of a block mapping's entry, up to its colon: a node on one line. -/
def blockKey (n least : Nat) : Reader Node := do
  let line := (← get).line
  let key ← flowNode n false least
  if (← keyColon) && (← get).line == line then pure key else failure

mutual

/-- A node of a block with `least` columns of indentation. `keys` says whether a block collection may
begin on this line, and `flat` whether a sequence may stand one column further left. -/
def blockNode : Nat → Nat → Bool → Bool → Reader Node
  | 0, _, _, _ => failure
  | n + 1, least, keys, flat => do
    let start ← get
    let p := start.skip false (!keys)
    let keys := keys || start.line != p.line
    set p
    if p.rest.head? == some '\t' then failure
    else if p.atClose then pure .missing
    else if p.column < least then
      if flat && p.column + 1 == least && p.atDash then return .sequence (← blockItems n p.column true)
      else pure .missing
    else if p.atDash then
      if keys then return .sequence (← blockItems n p.column false) else failure
    else
      let node ← flowNode n false least
      let oneLine := (← get).line == p.line
      if ← keyColon then
        if oneLine && keys then return .mapping (← blockEntries n p.column node) else failure
      else pure node

/-- The items of a block sequence, whose dashes stand in one column. The items of a flat sequence end
where another token stands in that column. -/
def blockItems : Nat → Nat → Bool → Reader (List Node)
  | 0, _, _ => failure
  | n + 1, column, flat => do
    let _ ← takeChar
    let item ← blockNode n (column + 1) true false
    let p := (← get).skip false true
    set p
    if p.atClose || p.column < column then pure [item]
    else if p.column ≠ column then failure
    else if p.atDash then return item :: (← blockItems n column flat)
    else if flat then pure [item]
    else failure

/-- The entries of a block mapping, whose keys stand in one column, after the first key. -/
def blockEntries : Nat → Nat → Node → Reader (List (Node × Node))
  | 0, _, _ => failure
  | n + 1, column, key => do
    let _ ← takeChar
    let value ← blockNode n (column + 1) false true
    let p := (← get).skip false true
    set p
    if p.atClose || p.column < column then pure [(key, value)]
    else if p.column ≠ column || p.atDash then failure
    else
      let next ← blockKey n (column + 1)
      return (key, value) :: (← blockEntries n column next)

end

/-- The end of a document: nothing but end markers may follow it. -/
def finish : Nat → Reader Unit
  | 0 => failure
  | n + 1 => do
    let p := (← get).skip false true
    match p.rest with
    | [] => pure ()
    | '.' :: _ =>
      if !p.atMarker then failure
      set (Nat.repeat Place.next 3 p)
      finish n
    | _ => failure

/-- How deep the nodes of a document may be nested. -/
def maxDepth : Nat := 128

/-- A document with its markers. A text without any token has no node. -/
def document (n : Nat) : Reader (Option Node) := do
  let p := (← get).skip false false
  set p
  if p.atEnd then pure none
  else
    let marked := p.atMarker && p.rest.head? == some '-'
    if marked then set (Nat.repeat Place.next 3 p)
    else if p.atMarker then failure
    let node ← blockNode n 0 (!marked) false
    finish n
    if node.depth ≤ maxDepth then pure (some node) else failure

/-- A text with every line break written as one character. -/
def unifyBreaks : List Char → List Char
  | '\r' :: '\n' :: cs => '\n' :: unifyBreaks cs
  | '\r' :: cs => '\n' :: unifyBreaks cs
  | '\x85' :: cs => '\n' :: unifyBreaks cs
  | c :: cs => c :: unifyBreaks cs
  | [] => []

/-- Whether a character may stand in a document. -/
def isPrintable (c : Char) : Bool :=
  let n := c.toNat
  n == 9 || n == 10 || n == 13 || (0x20 ≤ n && n ≤ 0x7E) || n == 0x85 || (0xA0 ≤ n && n ≤ 0xFFFD) ||
    0x10000 ≤ n

/-- A text without the mark of its byte order. -/
def dropByteOrderMark : List Char → List Char
  | '\ufeff' :: cs => cs
  | cs => cs

/-- The document that a whole text is, which has no node if the text has no token. -/
def read? (text : String) : Option (Option Node) :=
  let cs := dropByteOrderMark text.toList
  if cs.all isPrintable then
    let cs := unifyBreaks cs
    ((document (4 * cs.length + 8)).run ⟨cs, 0, 0⟩).map Prod.fst
  else none

end Sift.Yaml
