import Sift.Pattern.Expr
import Sift.Unicode.Property
import Sift.Unicode.Script

/-! # Names of properties

A pattern names a property by its short or its long name. Case, spaces, hyphens and underscores in names
do not count, nor does the word `is` in front.
-/
namespace Sift.Pattern
open Unicode

/-- A property's name in the form in which names are compared. -/
def normalName (name : List Char) : String :=
  let (startsWithIs, name) := match name with
    | a :: b :: rest =>
      if (a = 'i' || a = 'I') && (b = 's' || b = 'S') then (true, rest) else (false, name)
    | _ => (false, name)
  let kept := name.filter fun c => c.toNat < 0x80 && !([' ', '_', '-'].contains c)
  let lower := kept.map Char.toLower
  if startsWithIs && lower == ['c'] then "isc" else String.ofList lower

def categoryOfName? (name : String) : Option CharSet :=
  match name with
  | "l" | "letter" => some Category.letter
  | "lu" | "uppercaseletter" => some Category.uppercaseLetter
  | "ll" | "lowercaseletter" => some Category.lowercaseLetter
  | "lt" | "titlecaseletter" => some Category.titlecaseLetter
  | "lc" | "casedletter" => some Category.casedLetter
  | "lm" | "modifierletter" => some Category.modifierLetter
  | "lo" | "otherletter" => some Category.otherLetter
  | "m" | "mark" | "combiningmark" => some Category.mark
  | "mn" | "nonspacingmark" => some Category.nonspacingMark
  | "mc" | "spacingmark" => some Category.spacingMark
  | "me" | "enclosingmark" => some Category.enclosingMark
  | "n" | "number" => some Category.number
  | "nd" | "decimalnumber" | "digit" => some Category.decimalNumber
  | "nl" | "letternumber" => some Category.letterNumber
  | "no" | "othernumber" => some Category.otherNumber
  | "p" | "punctuation" | "punct" => some Category.punctuation
  | "pc" | "connectorpunctuation" => some Category.connectorPunctuation
  | "pd" | "dashpunctuation" => some Category.dashPunctuation
  | "ps" | "openpunctuation" => some Category.openPunctuation
  | "pe" | "closepunctuation" => some Category.closePunctuation
  | "pi" | "initialpunctuation" => some Category.initialPunctuation
  | "pf" | "finalpunctuation" => some Category.finalPunctuation
  | "po" | "otherpunctuation" => some Category.otherPunctuation
  | "s" | "symbol" => some Category.symbol
  | "sm" | "mathsymbol" => some Category.mathSymbol
  | "sc" | "currencysymbol" => some Category.currencySymbol
  | "sk" | "modifiersymbol" => some Category.modifierSymbol
  | "so" | "othersymbol" => some Category.otherSymbol
  | "z" | "separator" => some Category.separator
  | "zs" | "spaceseparator" => some Category.spaceSeparator
  | "zl" | "lineseparator" => some Category.lineSeparator
  | "zp" | "paragraphseparator" => some Category.paragraphSeparator
  | "c" | "other" => some Category.other
  | "cc" | "control" | "cntrl" => some Category.control
  | "cf" | "format" => some Category.format
  | "cn" | "unassigned" => some Category.unassigned
  | "co" | "privateuse" => some Category.privateUse
  | "any" => some .full
  | "ascii" => some (.ofRanges [(0, 0x7F)])
  | "assigned" => some Category.assigned
  | _ => none

def scriptOfName? (name : String) : Option CharSet :=
  match name with
  | "arabic" | "arab" => some Script.arabic
  | "armenian" | "armn" => some Script.armenian
  | "bengali" | "beng" => some Script.bengali
  | "common" | "zyyy" => some Script.common
  | "cyrillic" | "cyrl" => some Script.cyrillic
  | "devanagari" | "deva" => some Script.devanagari
  | "georgian" | "geor" => some Script.georgian
  | "greek" | "grek" => some Script.greek
  | "han" | "hani" => some Script.han
  | "hangul" | "hang" => some Script.hangul
  | "hebrew" | "hebr" => some Script.hebrew
  | "hiragana" | "hira" => some Script.hiragana
  | "katakana" | "kana" => some Script.katakana
  | "latin" | "latn" => some Script.latin
  | "thai" => some Script.thai
  | _ => none

def binaryOfName? (name : String) : Option CharSet :=
  match name with
  | "alphabetic" | "alpha" => some alphabetic
  | "lowercase" | "lower" => some lowercase
  | "uppercase" | "upper" => some uppercase
  | "whitespace" | "wspace" | "space" => some whiteSpace
  | "joincontrol" | "joinc" => some joinControl
  | _ => none

/-- The code points with a property, if there is a property of that name. -/
def Property.chars? : Property → Option CharSet
  | .named name =>
    let name := normalName name
    ((binaryOfName? name).or (categoryOfName? name)).or (scriptOfName? name)
  | .valued name value =>
    let value := normalName value
    match normalName name with
    | "gc" | "generalcategory" => categoryOfName? value
    | "sc" | "script" => scriptOfName? value
    | _ => none

end Sift.Pattern
